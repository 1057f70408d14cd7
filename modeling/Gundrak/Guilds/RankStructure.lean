import Gundrak.Guilds.Guild

/-!
# The rank structure of a guild

`RanksSound` says that the two things a guild stores about its ranks agree: the index every member
holds is that of a rank, and the leader is a member who holds the rank of a guild master.

Three calls can break it.  `HandleSetLeader` makes the new leader a guild master and the old one an
officer, in this order, so a leader who hands the guild over to himself ends as an officer.
`HandleRemoveLowestRank` removes a rank that members may still hold.  `ChangeMemberRank` changes the
rank of the leader like any other.  Also, `AddMember` believes the rank it is passed.

`KeepsRanks` excludes these, and **`ranksSound_of_reaches`** says that nothing else can break it:
whatever a new guild goes through, as long as all calls satisfy `KeepsRanks` the ranks stay sound.
`ranksSound_next_iff` says that nothing less would do: in a sound guild a call that does not satisfy
`KeepsRanks` leaves one that is not.
-/

open Std (ExtTreeMap)

namespace Gundrak

/-! ## The calls -/

/-- The calls that change the ranks and the members of a guild, and what happens to characters outside
it.  The walks are walks through the members. -/
inductive GuildCall where
  | AddMember (guid : ObjectGuid) (rankId : UInt8) (stats : Option String)
  | DeleteMember (guid : ObjectGuid) (walk : List ObjectGuid)
  | ChangeMemberRank (guid : ObjectGuid) (newRank : UInt8)
  | HandleSetLeader (player : ObjectGuid) (walk : List ObjectGuid) (name : String)
  | HandleUpdateMemberRank (player : ObjectGuid) (walk : List ObjectGuid) (name : String)
    (demote : Bool)
  | HandleAddNewRank (player : ObjectGuid) (name : String)
  | HandleRemoveLowestRank (player : ObjectGuid)
  | HandleSetRankInfo (player : ObjectGuid) (rankId : UInt8) (name : String)
    (rights moneyPerDay : UInt32) (rightsAndSlots : List (Fin 6 × GuildBankRightsAndSlots))
  /-- a character joins or leaves another guild -/
  | otherGuild (guid : ObjectGuid) (joins : Bool)

namespace GuildWorld

variable (w : GuildWorld)

/-- A walk sees every member once. -/
def IsWalk (walk : List ObjectGuid) : Prop := walk.Perm w.guild.m_members.keys

instance (walk : List ObjectGuid) : Decidable (w.IsWalk walk) :=
  inferInstanceAs (Decidable (walk.Perm w.guild.m_members.keys))

/-- What a call does; `none` when the guild does not exist any more, or the call cannot be made. -/
def next (w : GuildWorld) : GuildCall → Option GuildWorld
  | .AddMember guid rankId stats => some (w.AddMember guid rankId stats)
  | .DeleteMember guid walk => if w.IsWalk walk then w.DeleteMember guid walk else none
  | .ChangeMemberRank guid newRank =>
    some { w with guild := w.guild.ChangeMemberRank guid newRank }
  | .HandleSetLeader player walk name =>
    if w.IsWalk walk then some { w with guild := w.guild.HandleSetLeader player walk name }
    else none
  | .HandleUpdateMemberRank player walk name demote =>
    if w.IsWalk walk then
      some { w with guild := w.guild.HandleUpdateMemberRank player walk name demote }
    else none
  | .HandleAddNewRank player name =>
    some { w with guild := w.guild.HandleAddNewRank player name }
  | .HandleRemoveLowestRank player =>
    some { w with guild := w.guild.HandleRemoveLowestRank player }
  | .HandleSetRankInfo player rankId name rights moneyPerDay rightsAndSlots =>
    some { w with
      guild := w.guild.HandleSetRankInfo player rankId name rights moneyPerDay rightsAndSlots }
  | .otherGuild guid joins =>
    if guid ∈ w.guild.m_members then none
    else some { w with inGuild := if joins then insert guid w.inGuild else w.inGuild.erase guid }

end GuildWorld

/-- A guild and the characters of the realm, from `w` on. -/
def guildMachine (w : GuildWorld) : Machine GuildWorld GuildCall where
  start := w
  next := GuildWorld.next

/-! ## What is claimed -/

/-- Every member holds the index of a rank, and the leader is a member who holds that of the guild
master. -/
structure RanksSound (guild : Guild) : Prop where
  rank_lt : ∀ (guid : ObjectGuid) (member : Member), guild.m_members[guid]? = some member →
    member.m_rankId.toNat < guild.m_ranks.length
  leader : ∃ member, guild.m_members[guild.m_leaderGuid]? = some member ∧ member.m_rankId = GR_GUILDMASTER

/-- The calls that keep the ranks sound: a new member is not passed a rank that does not exist, the
rank of the leader is not changed by `ChangeMemberRank`, nobody hands the guild over to himself, and
the rank that is removed has no members. -/
def KeepsRanks (w : GuildWorld) : GuildCall → Prop
  | .AddMember guid rankId stats =>
    guid ∉ w.inGuild → stats.isSome → rankId ≠ GUILD_RANK_NONE → rankId.toNat < w.guild.m_ranks.length
  | .ChangeMemberRank guid newRank =>
    guid = w.guild.m_leaderGuid → newRank ≤ w.guild.GetLowestRankId → newRank = GR_GUILDMASTER
  | .HandleSetLeader player walk name =>
    w.guild.IsLeader player → ∀ member, w.guild.GetMemberByName walk name = some member → member.m_guid ≠ player
  | .HandleRemoveLowestRank player =>
    w.guild.IsLeader player → GUILD_RANKS_MIN_COUNT < w.guild.GetRanksSize →
      ∀ (guid : ObjectGuid) (member : Member), w.guild.m_members[guid]? = some member →
        member.m_rankId ≠ w.guild.GetLowestRankId
  | _ => True

instance (w : GuildWorld) (call : GuildCall) : Decidable (KeepsRanks w call) := by
  cases call with
  | AddMember guid rankId stats =>
    exact inferInstanceAs (Decidable (_ → _))
  | ChangeMemberRank guid newRank =>
    exact inferInstanceAs (Decidable (_ → _))
  | HandleSetLeader player walk name =>
    exact inferInstanceAs (Decidable (_ → _))
  | HandleRemoveLowestRank player =>
    have := decidable_of_iff
      (∀ p ∈ w.guild.m_members.toList, p.2.m_rankId ≠ w.guild.GetLowestRankId)
      (TreeMap.forall_get_iff w.guild.m_members
        fun _ member ↦ member.m_rankId ≠ w.guild.GetLowestRankId).symm
    exact inferInstanceAs (Decidable (_ → _))
  | _ => exact isTrue trivial

/-! ## The members after a call -/

namespace Guild

variable (guild : Guild)

theorem get_modifyMember (guid a : ObjectGuid) (f : Member → Member) : (guild.modifyMember guid f).m_members[a]? =
      if guid = a then (guild.m_members[guid]?).map f else guild.m_members[a]? :=
  TreeMap.get_modify _ _ _ _

/-- After a change of rank the members are those from before, the one with his new rank. -/
theorem get_ChangeRank {guid a : ObjectGuid} {newRank : UInt8} {member : Member}
    (h : (guild.ChangeRank guid newRank).m_members[a]? = some member) :
    ∃ before, guild.m_members[a]? = some before ∧ member.m_guid = before.m_guid ∧
      member.m_rankId = if guid = a then newRank else before.m_rankId := by
  rw [ChangeRank, get_modifyMember] at h
  by_cases ha : guid = a
  · subst ha
    rw [if_pos rfl, Option.map_eq_some_iff] at h
    obtain ⟨before, hbefore, rfl⟩ := h
    exact ⟨before, hbefore, rfl, by rw [if_pos rfl]; rfl⟩
  · rw [if_neg ha] at h
    exact ⟨member, h, rfl, by rw [if_neg ha]⟩

theorem ChangeRank_get {guid a : ObjectGuid} {newRank : UInt8} {before : Member}
    (h : guild.m_members[a]? = some before) :
    (guild.ChangeRank guid newRank).m_members[a]? = some (if guid = a then before.ChangeRank newRank else before) := by
  rw [ChangeRank, get_modifyMember]
  by_cases ha : guid = a
  · subst ha
    simp [h]
  · simp [ha, h]

section

variable (name : String) (rights : UInt32)

@[simp] theorem CreateRank_members : (guild.CreateRank name rights).m_members = guild.m_members := by
  dsimp only [CreateRank]
  split_ifs <;> rfl

@[simp] theorem CreateRank_leaderGuid : (guild.CreateRank name rights).m_leaderGuid = guild.m_leaderGuid := by
  dsimp only [CreateRank]
  split_ifs <;> rfl

theorem CreateRank_effect : ∃ ranks, guild.m_ranks.length ≤ ranks.length ∧
      (guild.m_ranks.length ≤ 10 → ranks.length ≤ 10) ∧
      guild.CreateRank name rights = { guild with m_ranks := ranks } := by
  by_cases h : guild.GetRanksSize ≥ GUILD_RANKS_MAX_COUNT
  · exact ⟨guild.m_ranks, le_rfl, id, if_pos h⟩
  · refine ⟨_, ?_, ?_, if_neg h⟩
    · simp
    · intro hlen
      have hlt : guild.m_ranks.length % 256 < 10 := by
        simpa [GUILD_RANKS_MAX_COUNT, GetRanksSize, UInt8.le_iff_toNat_le] using h
      rw [List.length_append, List.length_singleton]
      omega

end

section

variable (player : ObjectGuid)

/-- `HandleSetRankInfo` changes what a rank says, and nothing else. -/
theorem HandleSetRankInfo_effect (rankId : UInt8) (name : String)
    (rights moneyPerDay : UInt32) (rightsAndSlots : List (Fin 6 × GuildBankRightsAndSlots)) :
    ∃ ranks, ranks.length = guild.m_ranks.length ∧
      guild.HandleSetRankInfo player rankId name rights moneyPerDay rightsAndSlots =
        { guild with m_ranks := ranks } := by
  unfold HandleSetRankInfo
  split_ifs
  · exact ⟨guild.m_ranks, rfl, rfl⟩
  · cases guild.GetRankInfo rankId with
    | none => exact ⟨guild.m_ranks, rfl, rfl⟩
    | some rankInfo => exact ⟨_, List.length_set, rfl⟩

theorem HandleAddNewRank_effect (name : String) : ∃ ranks, guild.m_ranks.length ≤ ranks.length ∧
      (guild.m_ranks.length ≤ 10 → ranks.length ≤ 10) ∧
      guild.HandleAddNewRank player name = { guild with m_ranks := ranks } := by
  unfold HandleAddNewRank
  split_ifs
  · exact ⟨guild.m_ranks, le_rfl, id, rfl⟩
  · exact guild.CreateRank_effect name _
  · exact ⟨guild.m_ranks, le_rfl, id, rfl⟩

theorem HandleRemoveLowestRank_effect : guild.HandleRemoveLowestRank player = guild ∧
        (guild.IsLeader player → guild.GetLowestRankId < guild.GetRanksSize →
          guild.GetRanksSize ≤ GUILD_RANKS_MIN_COUNT) ∨
      (GUILD_RANKS_MIN_COUNT < guild.GetRanksSize ∧ guild.IsLeader player ∧
        guild.HandleRemoveLowestRank player = { guild with m_ranks := guild.m_ranks.dropLast }) := by
  unfold HandleRemoveLowestRank HandleRemoveRank
  split_ifs with h
  · refine .inl ⟨rfl, fun hleader hlow ↦ ?_⟩
    rcases h with h | h | h
    · exact h
    · exact absurd h (UInt8.not_le.mpr hlow)
    · simp [hleader] at h
  · push Not at h
    exact .inr ⟨UInt8.not_le.mp h.1, by simpa using h.2.2, rfl⟩

/-- A demotion or a promotion that is not refused moves a member other than the caller to the next rank:
down, but not below the lowest one, or up, but not to the rank of the caller. -/
theorem HandleUpdateMemberRank_effect (walk : List ObjectGuid) (name : String) (demote : Bool) :
    guild.HandleUpdateMemberRank player walk name demote = guild ∨
      ∃ member memberMe, guild.GetMemberByName walk name = some member ∧ guild.GetMember player = some memberMe ∧
        ((memberMe.m_rankId < member.m_rankId ∧ member.m_rankId < guild.GetLowestRankId ∧
          guild.HandleUpdateMemberRank player walk name demote = guild.ChangeRank member.m_guid (member.m_rankId + 1)) ∨
        (memberMe.m_rankId + 1 < member.m_rankId ∧ guild.HandleUpdateMemberRank player walk name demote =
            guild.ChangeRank member.m_guid (member.m_rankId - 1))) := by
  unfold HandleUpdateMemberRank
  cases hname : guild.GetMemberByName walk name with
  | none => left; simp only [ite_self]
  | some member =>
    cases hme : guild.GetMember player with
    | none => left; simp only [ite_self]
    | some memberMe =>
      cases demote with
      | true =>
        simp only [if_true]
        split_ifs with hright hself hhigh hlow
        iterate 4 exact .inl rfl
        right
        refine ⟨member, memberMe, rfl, rfl, .inl ⟨?_, UInt8.not_le.mp hlow, rfl⟩⟩
        simpa [Member.IsRankNotLower] using hhigh
      | false =>
        simp only [Bool.false_eq_true, if_false]
        split_ifs with hright hself hhigh
        iterate 3 exact .inl rfl
        right
        refine ⟨member, memberMe, rfl, rfl, .inr ⟨?_, rfl⟩⟩
        simpa [Member.IsRankNotLower] using hhigh

end

theorem ChangeMemberRank_effect (guid : ObjectGuid) (newRank : UInt8) : guild.ChangeMemberRank guid newRank = guild ∧
        (newRank ≤ guild.GetLowestRankId → guild.m_members[guid]? = none) ∨
      newRank ≤ guild.GetLowestRankId ∧ guild.ChangeMemberRank guid newRank = guild.ChangeRank guid newRank := by
  unfold ChangeMemberRank GetMember
  split_ifs with hrank
  · cases h : guild.m_members[guid]? with
    | none => exact .inl ⟨rfl, fun _ ↦ rfl⟩
    | some member => exact .inr ⟨hrank, rfl⟩
  · exact .inl ⟨rfl, fun h ↦ absurd h hrank⟩

theorem HandleSetLeader_effect (player : ObjectGuid) (walk : List ObjectGuid) (name : String) :
    guild.HandleSetLeader player walk name = guild ∧ (guild.IsLeader player →
          guild.GetMember player = none ∨ guild.GetMemberByName walk name = none) ∨
      ∃ pOldLeader pNewLeader, guild.IsLeader player ∧ guild.GetMember player = some pOldLeader ∧
        guild.GetMemberByName walk name = some pNewLeader ∧
        guild.HandleSetLeader player walk name =
          (guild.SetLeaderGUID pNewLeader).ChangeRank pOldLeader.m_guid GR_OFFICER := by
  unfold HandleSetLeader
  cases hleader : guild.IsLeader player with
  | false => exact .inl ⟨rfl, by simp⟩
  | true =>
    cases hold : guild.GetMember player with
    | none => exact .inl ⟨rfl, fun _ ↦ .inl rfl⟩
    | some pOldLeader =>
      cases hnew : guild.GetMemberByName walk name with
      | none => exact .inl ⟨rfl, fun _ ↦ .inr rfl⟩
      | some pNewLeader => exact .inr ⟨pOldLeader, pNewLeader, rfl, rfl, rfl, rfl⟩

end Guild

/-! ## What holds without any condition -/

/-- The members are stored under their own guids, they are in a guild, and there are five to ten
ranks. -/
structure GuildTidy (w : GuildWorld) : Prop where
  guid_eq : ∀ (guid : ObjectGuid) (member : Member), w.guild.m_members[guid]? = some member → member.m_guid = guid
  inGuild : ∀ (guid : ObjectGuid) (member : Member), w.guild.m_members[guid]? = some member → guid ∈ w.inGuild
  five_le : 5 ≤ w.guild.m_ranks.length
  le_ten : w.guild.m_ranks.length ≤ 10

namespace GuildTidy

variable {w : GuildWorld} (ht : GuildTidy w)
include ht

theorem toNat_GetRanksSize : w.guild.GetRanksSize.toNat = w.guild.m_ranks.length := by
  have hle := ht.le_ten
  rw [Guild.GetRanksSize, UInt8.toNat_ofNat']
  omega

theorem toNat_GetLowestRankId : w.guild.GetLowestRankId.toNat = w.guild.m_ranks.length - 1 := by
  have hle := ht.le_ten
  have hge := ht.five_le
  rw [Guild.GetLowestRankId, UInt8.toNat_sub, UInt8.toNat_ofNat', UInt8.toNat_one]
  omega

theorem toNat_lt_of_le_lowest {rankId : UInt8} (h : rankId ≤ w.guild.GetLowestRankId) :
    rankId.toNat < w.guild.m_ranks.length := by
  have hle := UInt8.le_iff_toNat_le.mp h
  have hlen := ht.five_le
  rw [ht.toNat_GetLowestRankId] at hle
  omega

theorem get_of_name {walk : List ObjectGuid} {name : String} {member : Member}
    (h : w.guild.GetMemberByName walk name = some member) :
    w.guild.m_members[member.m_guid]? = some member := by
  have hmem := List.mem_of_find?_eq_some h
  obtain ⟨guid, -, hguid⟩ := List.mem_filterMap.mp hmem
  rwa [ht.guid_eq guid member hguid]

theorem changeRank (guid : ObjectGuid) (newRank : UInt8) :
    GuildTidy { w with guild := w.guild.ChangeRank guid newRank } where
  guid_eq a member h := by
    obtain ⟨before, hbefore, hguid, -⟩ := w.guild.get_ChangeRank h
    rw [hguid, ht.guid_eq a before hbefore]
  inGuild a member h := by
    obtain ⟨before, hbefore, -, -⟩ := w.guild.get_ChangeRank h
    exact ht.inGuild a before hbefore
  five_le := ht.five_le
  le_ten := ht.le_ten

theorem setLeaderGUID (pLeader : Member) : GuildTidy { w with guild := w.guild.SetLeaderGUID pLeader } := by
  have h := ht.changeRank pLeader.m_guid GR_GUILDMASTER
  exact ⟨h.guid_eq, h.inGuild, h.five_le, h.le_ten⟩

theorem setRanks {ranks : List RankInfo} (h5 : 5 ≤ ranks.length) (h10 : ranks.length ≤ 10) :
    GuildTidy { w with guild := { w.guild with m_ranks := ranks } } :=
  ⟨ht.guid_eq, ht.inGuild, h5, h10⟩

theorem eraseMember (guid : ObjectGuid) : GuildTidy (w.eraseMember guid) where
  guid_eq a member h := by
    rw [GuildWorld.eraseMember, TreeMap.get_erase, Option.ite_none_left_eq_some] at h
    exact ht.guid_eq a member h.2
  inGuild a member h := by
    rw [GuildWorld.eraseMember, TreeMap.get_erase, Option.ite_none_left_eq_some] at h
    exact Finset.mem_erase.mpr ⟨Ne.symm h.1, ht.inGuild a member h.2⟩
  five_le := ht.five_le
  le_ten := ht.le_ten

end GuildTidy

/-! ## One call -/

namespace GuildWorld

variable (w : GuildWorld)

/-- `AddMember` does nothing, or it adds a member with the rank that was passed or the lowest one. -/
theorem AddMember_effect (guid : ObjectGuid) (rankId : UInt8) (stats : Option String) :
    w.AddMember guid rankId stats = w ∧ (guid ∈ w.inGuild ∨ stats = none) ∨
      ∃ member : Member, member.m_guid = guid ∧ member.m_rankId =
          (if rankId = GUILD_RANK_NONE then w.guild.GetLowestRankId else rankId) ∧
        guid ∉ w.inGuild ∧ stats.isSome ∧ w.AddMember guid rankId stats =
          { guild := { w.guild with m_members := w.guild.m_members.insert guid member }
            inGuild := insert guid w.inGuild } := by
  by_cases hin : guid ∈ w.inGuild
  · exact .inl ⟨if_pos hin, .inl hin⟩
  · cases stats with
    | none => exact .inl ⟨if_neg hin, .inr rfl⟩
    | some name => exact .inr ⟨_, rfl, rfl, hin, rfl, if_neg hin⟩

/-- The loop of `DeleteMember` ends with a member other than the one that leaves, unless there is none. -/
theorem foldl_considerLeader (guid : ObjectGuid) (members : List Member) (start : Option Member)
    (hstart : ∀ member, start = some member → member.m_guid ≠ guid) :
    (∃ member, members.foldl (considerLeader guid) start = some member ∧
      member.m_guid ≠ guid ∧ (member ∈ members ∨ start = some member)) ∨
    (members.foldl (considerLeader guid) start = none ∧ start = none) := by
  induction members generalizing start with
  | nil =>
    cases start with
    | none => exact .inr ⟨rfl, rfl⟩
    | some member => exact .inl ⟨member, rfl, hstart member rfl, .inr rfl⟩
  | cons first rest ih =>
    have hnext : ∀ member, considerLeader guid start first = some member →
        member.m_guid ≠ guid ∧ (member = first ∨ start = some member) := by
      intro member h
      unfold considerLeader at h
      split_ifs at h with hfirst
      · exact ⟨hstart member h, .inr h⟩
      · cases start with
        | none =>
          obtain rfl : first = member := by simpa using h
          exact ⟨hfirst, .inl rfl⟩
        | some best =>
          dsimp only at h
          split_ifs at h with hbest
          · obtain rfl : first = member := by simpa using h
            exact ⟨hfirst, .inl rfl⟩
          · exact ⟨hstart member h, .inr h⟩
    rcases ih (considerLeader guid start first) (fun member h ↦ (hnext member h).1) with
      ⟨member, hfold, hne, hmem⟩ | ⟨hfold, hnone⟩
    · refine .inl ⟨member, hfold, hne, ?_⟩
      rcases hmem with hmem | hmem
      · exact .inl (List.mem_cons_of_mem _ hmem)
      · rcases (hnext member hmem).2 with rfl | h
        · exact .inl List.mem_cons_self
        · exact .inr h
    · refine .inr ⟨hfold, ?_⟩
      unfold considerLeader at hnone
      split_ifs at hnone
      · exact hnone
      · cases start with
        | none => rfl
        | some best =>
          dsimp only at hnone
          split_ifs at hnone

/-- A member who is not the leader just goes; the leader goes after another member has become leader. -/
theorem DeleteMember_effect {w w' : GuildWorld} (ht : GuildTidy w) {guid : ObjectGuid}
    {walk : List ObjectGuid} (h : w.DeleteMember guid walk = some w') :
    (w.guild.m_leaderGuid ≠ guid ∧ w' = w.eraseMember guid) ∨ ∃ newLeader, newLeader.m_guid ≠ guid ∧
        w.guild.m_members[newLeader.m_guid]? = some newLeader ∧
        w' = { w with guild := w.guild.SetLeaderGUID newLeader }.eraseMember guid := by
  unfold DeleteMember at h
  split_ifs at h with hleader
  · right
    rcases foldl_considerLeader guid (w.guild.membersAlong walk) none (by simp) with
      ⟨newLeader, hfold, hne, hmem⟩ | ⟨hfold, -⟩
    · rw [hfold] at h
      have hmem := hmem.resolve_right (by simp)
      obtain ⟨a, -, ha⟩ := List.mem_filterMap.mp hmem
      have ha' : w.guild.m_members[newLeader.m_guid]? = some newLeader := by
        rwa [ht.guid_eq a newLeader ha]
      exact ⟨newLeader, hne, ha', (Option.some_inj.mp h).symm⟩
    · rw [hfold] at h
      simp at h
  · exact .inl ⟨hleader, (Option.some_inj.mp h).symm⟩

end GuildWorld

theorem guildTidy_next {w w' : GuildWorld} (ht : GuildTidy w) {call : GuildCall}
    (h : w.next call = some w') : GuildTidy w' := by
  cases call with
  | AddMember guid rankId stats =>
    obtain rfl : w.AddMember guid rankId stats = w' := Option.some_inj.mp h
    rcases w.AddMember_effect guid rankId stats with ⟨heq, -⟩ | ⟨new, hnew, -, -, -, heq⟩
    · rwa [heq]
    · rw [heq]
      refine ⟨fun a member ha ↦ ?_, fun a member ha ↦ ?_, ht.five_le, ht.le_ten⟩
      · rw [TreeMap.get_insert] at ha
        split_ifs at ha with hguid
        · rw [← Option.some_inj.mp ha, ← hguid, hnew]
        · exact ht.guid_eq a member ha
      · rw [TreeMap.get_insert] at ha
        split_ifs at ha with hguid
        · rw [← hguid]
          exact Finset.mem_insert_self _ _
        · exact Finset.mem_insert_of_mem (ht.inGuild a member ha)
  | DeleteMember guid walk =>
    obtain ⟨-, h⟩ := Option.ite_none_right_eq_some.mp h
    rcases GuildWorld.DeleteMember_effect ht h with ⟨-, rfl⟩ | ⟨newLeader, -, -, rfl⟩
    · exact ht.eraseMember guid
    · exact (ht.setLeaderGUID newLeader).eraseMember guid
  | ChangeMemberRank guid newRank =>
    obtain rfl := Option.some_inj.mp h
    rcases w.guild.ChangeMemberRank_effect guid newRank with ⟨heq, -⟩ | ⟨-, heq⟩
    · rwa [heq]
    · rw [heq]
      exact ht.changeRank guid newRank
  | HandleSetLeader player walk name =>
    obtain ⟨-, h⟩ := Option.ite_none_right_eq_some.mp h
    obtain rfl := Option.some_inj.mp h
    rcases w.guild.HandleSetLeader_effect player walk name with
      ⟨heq, -⟩ | ⟨pOldLeader, pNewLeader, -, -, -, heq⟩
    · rwa [heq]
    · rw [heq]
      exact (ht.setLeaderGUID pNewLeader).changeRank pOldLeader.m_guid GR_OFFICER
  | HandleUpdateMemberRank player walk name demote =>
    obtain ⟨-, h⟩ := Option.ite_none_right_eq_some.mp h
    obtain rfl := Option.some_inj.mp h
    rcases w.guild.HandleUpdateMemberRank_effect player walk name demote with
      heq | ⟨member, memberMe, -, -, ⟨-, -, heq⟩ | ⟨-, heq⟩⟩
    · rwa [heq]
    · rw [heq]
      exact ht.changeRank _ _
    · rw [heq]
      exact ht.changeRank _ _
  | HandleAddNewRank player name =>
    obtain rfl := Option.some_inj.mp h
    obtain ⟨ranks, hle, h10, heq⟩ := w.guild.HandleAddNewRank_effect player name
    rw [heq]
    exact ht.setRanks (ht.five_le.trans hle) (h10 ht.le_ten)
  | HandleRemoveLowestRank player =>
    obtain rfl := Option.some_inj.mp h
    rcases w.guild.HandleRemoveLowestRank_effect player with ⟨heq, -⟩ | ⟨hmin, -, heq⟩
    · rwa [heq]
    · rw [heq]
      have hlt : 5 < w.guild.m_ranks.length := by
        have := UInt8.lt_iff_toNat_lt.mp hmin
        rwa [ht.toNat_GetRanksSize] at this
      have h10 := ht.le_ten
      exact ht.setRanks (by rw [List.length_dropLast]; omega) (by rw [List.length_dropLast]; omega)
  | HandleSetRankInfo player rankId name rights moneyPerDay rightsAndSlots =>
    obtain rfl := Option.some_inj.mp h
    obtain ⟨ranks, hlen, heq⟩ := w.guild.HandleSetRankInfo_effect player rankId name rights moneyPerDay rightsAndSlots
    rw [heq]
    exact ht.setRanks (hlen ▸ ht.five_le) (hlen ▸ ht.le_ten)
  | otherGuild guid joins =>
    obtain ⟨hmem, h⟩ := Option.ite_none_left_eq_some.mp h
    obtain rfl := Option.some_inj.mp h
    refine ⟨ht.guid_eq, fun a member ha ↦ ?_, ht.five_le, ht.le_ten⟩
    have hne : a ≠ guid := by
      rintro rfl
      exact hmem ((TreeMap.mem_iff _ _).mpr ⟨member, ha⟩)
    cases joins with
    | true => exact Finset.mem_insert_of_mem (ht.inGuild a member ha)
    | false => exact Finset.mem_erase.mpr ⟨hne, ht.inGuild a member ha⟩

namespace RanksSound

variable {w : GuildWorld} {guild : Guild}

/-- A change of rank to an existing rank is sound unless it takes the leader's rank from him. -/
theorem changeRank_iff (hs : RanksSound guild) {guid : ObjectGuid} {newRank : UInt8}
    (hlt : newRank.toNat < guild.m_ranks.length) :
    RanksSound (guild.ChangeRank guid newRank) ↔ (guid = guild.m_leaderGuid → newRank = GR_GUILDMASTER) := by
  obtain ⟨leader, hleader, hmaster⟩ := hs.leader
  have hget : (guild.ChangeRank guid newRank).m_members[guild.m_leaderGuid]? = _ := guild.ChangeRank_get hleader
  constructor
  · rintro ⟨-, member, hmember, hrank⟩ rfl
    have hmember' : (guild.ChangeRank guild.m_leaderGuid newRank).m_members[guild.m_leaderGuid]? =
        some member := hmember
    rw [hget, if_pos rfl] at hmember'
    rw [← hrank, ← Option.some_inj.mp hmember']
    rfl
  · intro h
    refine ⟨fun a member ha ↦ ?_, _, hget, ?_⟩
    · obtain ⟨before, hbefore, -, hrank⟩ := guild.get_ChangeRank ha
      rw [hrank]
      split_ifs
      · exact hlt
      · exact hs.rank_lt a before hbefore
    · split_ifs with hguid
      · exact h hguid
      · exact hmaster

theorem setLeaderGUID (hs : RanksSound guild) {pLeader : Member} (h : guild.m_members[pLeader.m_guid]? = some pLeader) :
    RanksSound (guild.SetLeaderGUID pLeader) := by
  have hpos : 0 < guild.m_ranks.length := Nat.zero_lt_of_lt (hs.rank_lt _ _ h)
  refine ⟨fun a member ha ↦ ?_, pLeader.ChangeRank GR_GUILDMASTER, ?_, rfl⟩
  · obtain ⟨before, hbefore, -, hrank⟩ := guild.get_ChangeRank ha
    rw [hrank]
    split_ifs
    · exact hpos
    · exact hs.rank_lt a before hbefore
  · have hget : (guild.ChangeRank pLeader.m_guid GR_GUILDMASTER).m_members[pLeader.m_guid]? = _ :=
      guild.ChangeRank_get h
    rwa [if_pos rfl] at hget

theorem setRanks (hs : RanksSound guild) {ranks : List RankInfo}
    (hle : guild.m_ranks.length ≤ ranks.length) : RanksSound { guild with m_ranks := ranks } :=
  ⟨fun a member ha ↦ (hs.rank_lt a member ha).trans_le hle, hs.leader⟩

theorem eraseMember (hs : RanksSound w.guild) {guid : ObjectGuid}
    (hguid : w.guild.m_leaderGuid ≠ guid) : RanksSound (w.eraseMember guid).guild := by
  obtain ⟨leader, hleader, hmaster⟩ := hs.leader
  refine ⟨fun a member ha ↦ ?_, leader, ?_, hmaster⟩
  · rw [GuildWorld.eraseMember, TreeMap.get_erase, Option.ite_none_left_eq_some] at ha
    exact hs.rank_lt a member ha.2
  · rw [GuildWorld.eraseMember, TreeMap.get_erase, if_neg (Ne.symm hguid)]
    exact hleader

end RanksSound

/-- In a sound guild a call leaves the ranks sound exactly if it satisfies `KeepsRanks`. -/
theorem ranksSound_next_iff {w w' : GuildWorld} (ht : GuildTidy w) (hs : RanksSound w.guild)
    {call : GuildCall} (h : w.next call = some w') :
    RanksSound w'.guild ↔ KeepsRanks w call := by
  obtain ⟨leader, hleader, hmaster⟩ := hs.leader
  cases call with
  | AddMember guid rankId stats =>
    obtain rfl : w.AddMember guid rankId stats = w' := Option.some_inj.mp h
    rcases w.AddMember_effect guid rankId stats with
      ⟨heq, hrefused⟩ | ⟨new, -, hrank, hin, hstats, heq⟩
    · rw [heq]
      refine iff_of_true hs fun hin hstats _ ↦ ?_
      rcases hrefused with hrefused | rfl
      · exact absurd hrefused hin
      · simp at hstats
    · rw [heq]
      have hlen := ht.five_le
      have hleader' : guid ≠ w.guild.m_leaderGuid := by
        rintro rfl
        exact hin (ht.inGuild _ _ hleader)
      constructor
      · intro hs' _ _ hnone
        simpa [hrank, hnone] using hs'.rank_lt guid new (by rw [TreeMap.get_insert, if_pos rfl])
      · intro hkeeps
        have hnew : new.m_rankId.toNat < w.guild.m_ranks.length := by
          rw [hrank]
          split_ifs with hnone
          · rw [ht.toNat_GetLowestRankId]
            omega
          · exact hkeeps hin hstats hnone
        refine ⟨fun a member ha ↦ ?_, leader, ?_, hmaster⟩
        · rw [TreeMap.get_insert] at ha
          split_ifs at ha with hguid
          · exact Option.some_inj.mp ha ▸ hnew
          · exact hs.rank_lt a member ha
        · rwa [TreeMap.get_insert, if_neg hleader']
  | DeleteMember guid walk =>
    obtain ⟨-, h⟩ := Option.ite_none_right_eq_some.mp h
    refine iff_of_true ?_ trivial
    rcases GuildWorld.DeleteMember_effect ht h with ⟨hne, rfl⟩ | ⟨newLeader, hne, hmem, rfl⟩
    · exact hs.eraseMember hne
    · exact RanksSound.eraseMember (w := { w with guild := w.guild.SetLeaderGUID newLeader })
        (hs.setLeaderGUID hmem) hne
  | ChangeMemberRank guid newRank =>
    obtain rfl := Option.some_inj.mp h
    rcases w.guild.ChangeMemberRank_effect guid newRank with ⟨heq, hrefused⟩ | ⟨hle, heq⟩
    · rw [heq]
      refine iff_of_true hs ?_
      rintro rfl hle
      rw [hrefused hle] at hleader
      simp at hleader
    · rw [heq, hs.changeRank_iff (ht.toNat_lt_of_le_lowest hle)]
      exact ⟨fun h hguid _ ↦ h hguid, fun h hguid ↦ h hguid hle⟩
  | HandleSetLeader player walk name =>
    obtain ⟨-, h⟩ := Option.ite_none_right_eq_some.mp h
    obtain rfl := Option.some_inj.mp h
    rcases w.guild.HandleSetLeader_effect player walk name with
      ⟨heq, hrefused⟩ | ⟨pOldLeader, pNewLeader, hplayer, hold, hnew, heq⟩
    · rw [heq]
      refine iff_of_true hs fun hplayer member hmember hguid ↦ ?_
      rcases hrefused hplayer with hnone | hnone
      · have hget := ht.get_of_name hmember
        rw [hguid] at hget
        simp [Guild.GetMember, hget] at hnone
      · simp [hnone] at hmember
    · have hguid : pOldLeader.m_guid = player := ht.guid_eq player pOldLeader hold
      have hsound := hs.setLeaderGUID (ht.get_of_name hnew)
      have hlen := ht.five_le
      have hlt : GR_OFFICER.toNat < (w.guild.SetLeaderGUID pNewLeader).m_ranks.length := by
        show 1 < w.guild.m_ranks.length
        omega
      rw [heq, hsound.changeRank_iff hlt, hguid]
      constructor
      · intro h _ member hmember hself
        obtain rfl : pNewLeader = member := Option.some_inj.mp (hnew.symm.trans hmember)
        exact absurd (h hself.symm) (by decide)
      · intro h hself
        exact absurd hself.symm (h hplayer pNewLeader hnew)
  | HandleUpdateMemberRank player walk name demote =>
    obtain ⟨-, h⟩ := Option.ite_none_right_eq_some.mp h
    obtain rfl := Option.some_inj.mp h
    refine iff_of_true ?_ trivial
    rcases w.guild.HandleUpdateMemberRank_effect player walk name demote with
      heq | ⟨member, memberMe, hmember, -, hmove⟩
    · rwa [heq]
    · have hget := ht.get_of_name hmember
      have hrank := hs.rank_lt _ _ hget
      have hlen := ht.le_ten
      -- the leader cannot be moved, because nobody has a higher rank
      have hnotLeader : 0 < member.m_rankId.toNat → member.m_guid ≠ w.guild.m_leaderGuid := by
        intro hpos hguid
        rw [hguid, hleader] at hget
        rw [← Option.some_inj.mp hget, hmaster] at hpos
        exact absurd hpos (by decide)
      rcases hmove with ⟨hme, hlow, heq⟩ | ⟨hme, heq⟩
      · rw [heq]
        have hme := UInt8.lt_iff_toNat_lt.mp hme
        have hlow := UInt8.lt_iff_toNat_lt.mp hlow
        rw [ht.toNat_GetLowestRankId] at hlow
        refine (hs.changeRank_iff ?_).mpr fun hguid ↦ absurd hguid (hnotLeader (by omega))
        rw [UInt8.toNat_add, UInt8.toNat_one]
        omega
      · rw [heq]
        have hme := UInt8.lt_iff_toNat_lt.mp hme
        refine (hs.changeRank_iff ?_).mpr fun hguid ↦ absurd hguid (hnotLeader (by omega))
        rw [UInt8.toNat_sub, UInt8.toNat_one]
        omega
  | HandleAddNewRank player name =>
    obtain rfl := Option.some_inj.mp h
    obtain ⟨ranks, hle, -, heq⟩ := w.guild.HandleAddNewRank_effect player name
    rw [heq]
    exact iff_of_true (hs.setRanks hle) trivial
  | HandleRemoveLowestRank player =>
    obtain rfl := Option.some_inj.mp h
    rcases w.guild.HandleRemoveLowestRank_effect player with
      ⟨heq, hrefused⟩ | ⟨hmin, hplayer, heq⟩
    · rw [heq]
      refine iff_of_true hs fun hplayer hmin ↦ ?_
      have hlow : w.guild.GetLowestRankId < w.guild.GetRanksSize := by
        have hlen := ht.five_le
        rw [UInt8.lt_iff_toNat_lt, ht.toNat_GetLowestRankId, ht.toNat_GetRanksSize]
        omega
      exact absurd (hrefused hplayer hlow) (UInt8.not_le.mpr hmin)
    · rw [heq]
      have hlowest := ht.toNat_GetLowestRankId
      constructor
      · intro hs' _ _ guid member hmember hrank
        have hlt := hs'.rank_lt guid member hmember
        rw [List.length_dropLast, hrank] at hlt
        omega
      · intro hkeeps
        refine ⟨fun guid member hmember ↦ ?_, leader, hleader, hmaster⟩
        have hlt := hs.rank_lt guid member hmember
        have hne : member.m_rankId.toNat ≠ w.guild.GetLowestRankId.toNat := fun h ↦
          hkeeps hplayer hmin guid member hmember (UInt8.toNat_inj.mp h)
        rw [List.length_dropLast]
        omega
  | HandleSetRankInfo player rankId name rights moneyPerDay rightsAndSlots =>
    obtain rfl := Option.some_inj.mp h
    obtain ⟨ranks, hlen, heq⟩ := w.guild.HandleSetRankInfo_effect player rankId name rights moneyPerDay rightsAndSlots
    rw [heq]
    exact iff_of_true (hs.setRanks hlen.ge) trivial
  | otherGuild guid joins =>
    obtain ⟨-, h⟩ := Option.ite_none_left_eq_some.mp h
    obtain rfl := Option.some_inj.mp h
    exact iff_of_true hs trivial

/-! ## A new guild and its runs -/

theorem Create_sound {leader : ObjectGuid} {leaderName : String} {rankNames : Fin 5 → String}
    {inGuild : Finset ObjectGuid} {w : GuildWorld}
    (h : GuildWorld.Create leader leaderName rankNames inGuild = some w) :
    GuildTidy w ∧ RanksSound w.guild := by
  obtain ⟨hnew, h⟩ := Option.ite_none_left_eq_some.mp h
  dsimp only [GuildWorld.AddMember] at h
  rw [if_neg hnew, Option.some_inj] at h
  have hmembers : ∀ a : ObjectGuid, w.guild.m_members[a]? =
      if leader = a then some ⟨leader, leaderName, GR_GUILDMASTER, fun _ ↦ 0⟩ else none := by
    intro a
    rw [← h, TreeMap.get_insert]
    simp [Guild.CreateDefaultGuildRanks, GR_GUILDMASTER, GUILD_RANK_NONE]
  have hranks : w.guild.m_ranks.length = 5 := by rw [← h]; rfl
  have hleader : w.guild.m_leaderGuid = leader := by
    rw [← h]
    simp [Guild.CreateDefaultGuildRanks]
  have hin : leader ∈ w.inGuild := by
    rw [← h]
    exact Finset.mem_insert_self _ _
  have hmember : ∀ (a : ObjectGuid) (member : Member), w.guild.m_members[a]? = some member →
      a = leader ∧ member.m_guid = a ∧ member.m_rankId = GR_GUILDMASTER := by
    intro a member ha
    rw [hmembers, Option.ite_none_right_eq_some] at ha
    obtain ⟨rfl, ha⟩ := ha
    rw [← Option.some_inj.mp ha]
    exact ⟨rfl, rfl, rfl⟩
  constructor
  · refine ⟨fun a member ha ↦ (hmember a member ha).2.1, fun a member ha ↦ ?_, hranks.ge, ?_⟩
    · rw [(hmember a member ha).1]
      exact hin
    · omega
  · refine ⟨fun a member ha ↦ ?_, _, by rw [hleader, hmembers, if_pos rfl], rfl⟩
    rw [(hmember a member ha).2.2, hranks]
    decide

/-- **The ranks of a guild stay sound.**  In every run of a new guild whose calls all satisfy
`KeepsRanks`, every member holds the index of a rank and the leader is a guild master. -/
theorem ranksSound_of_reaches {leader : ObjectGuid} {leaderName : String}
    {rankNames : Fin 5 → String} {inGuild : Finset ObjectGuid} {w w' : GuildWorld}
    (hnew : GuildWorld.Create leader leaderName rankNames inGuild = some w)
    (h : (guildMachine w).Reaches KeepsRanks w') : RanksSound w'.guild := by
  suffices hboth : GuildTidy w' ∧ RanksSound w'.guild from hboth.2
  refine h.invariant (P := fun w ↦ GuildTidy w ∧ RanksSound w.guild) (Create_sound hnew) ?_
  rintro s call t ⟨ht, hs⟩ hkeeps hnext
  exact ⟨guildTidy_next ht hnext, (ranksSound_next_iff ht hs hnext).mpr hkeeps⟩

/-- The calls on a new guild with the leader 1, if `ok` admits them all. -/
def runNewGuild (ok : GuildWorld → GuildCall → Prop) [∀ w call, Decidable (ok w call)]
    (calls : List GuildCall) : Option GuildWorld :=
  (GuildWorld.Create 1 "Drakkari" (fun _ ↦ "") ∅).bind fun w ↦
    (guildMachine w).exec ok w calls

theorem reaches_of_runNewGuild {ok : GuildWorld → GuildCall → Prop}
    [∀ w call, Decidable (ok w call)] {calls : List GuildCall} {w' : GuildWorld}
    (h : runNewGuild ok calls = some w') :
    ∃ w, GuildWorld.Create 1 "Drakkari" (fun _ ↦ "") ∅ = some w ∧ (guildMachine w).Reaches ok w' := by
  obtain ⟨w, hw, hrun⟩ := Option.bind_eq_some_iff.mp h
  exact ⟨w, hw, Machine.reaches_of_exec (M := guildMachine w) calls hrun⟩

/-- The leader takes in a second member and hands the guild over to him.  The new leader adds a rank and
removes it again, and demotes the old one, who has become an officer. -/
theorem ranksSound_after_handing_over : ∃ w' : GuildWorld,
    runNewGuild KeepsRanks [.AddMember 2 GUILD_RANK_NONE (some "Moorabi"),
      .HandleSetLeader 1 [1, 2] "Moorabi", .HandleAddNewRank 2 "", .HandleRemoveLowestRank 2,
      .HandleUpdateMemberRank 2 [2, 1] "Drakkari" true] = some w' ∧
    w'.guild.m_leaderGuid = 2 ∧ RanksSound w'.guild := by
  have hrun : (runNewGuild KeepsRanks [.AddMember 2 GUILD_RANK_NONE (some "Moorabi"),
      .HandleSetLeader 1 [1, 2] "Moorabi", .HandleAddNewRank 2 "", .HandleRemoveLowestRank 2,
      .HandleUpdateMemberRank 2 [2, 1] "Drakkari" true]).map (·.guild.m_leaderGuid) = some 2 := by
    decide +kernel
  obtain ⟨w', hw', hleader⟩ := Option.map_eq_some_iff.mp hrun
  obtain ⟨w, hnew, hreach⟩ := reaches_of_runNewGuild hw'
  exact ⟨w', hw', hleader, ranksSound_of_reaches hnew hreach⟩

/-- A leader who hands the guild over to himself is an officer afterwards. -/
theorem not_ranksSound_of_reachable :
    ¬ ∀ (leader : ObjectGuid) (leaderName : String) (rankNames : Fin 5 → String)
      (inGuild : Finset ObjectGuid) (w w' : GuildWorld),
      GuildWorld.Create leader leaderName rankNames inGuild = some w →
      (guildMachine w).Reachable w' → RanksSound w'.guild := by
  intro h
  have hrun : (runNewGuild (fun _ _ ↦ True) [.HandleSetLeader 1 [1] "Drakkari"]).map
      (fun w' ↦ (w'.guild.m_members[w'.guild.m_leaderGuid]?).map (·.m_rankId)) =
        some (some GR_OFFICER) := by
    decide +kernel
  obtain ⟨w', hw', hrank⟩ := Option.map_eq_some_iff.mp hrun
  obtain ⟨w, hnew, hreach⟩ := reaches_of_runNewGuild hw'
  obtain ⟨member, hmember, hmaster⟩ := (h _ _ _ _ w w' hnew hreach).leader
  rw [hmember, Option.map_some, Option.some_inj, hmaster] at hrank
  exact absurd hrank (by decide)

end Gundrak
