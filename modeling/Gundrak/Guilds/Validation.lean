import Gundrak.Guilds.RankStructure

/-!
# Validating a loaded guild

At startup the guilds are loaded from the database, their ranks, members and bank rights row by row, and
every guild is then passed to `Validate`.  It numbers the ranks anew if they are not 0, 1, 2 and so on,
lowers the members whose ranks do not exist, finds a leader, and leaves him the only guild master; a
guild for which it returns `false` is deleted.

`Valid` says what a guild should be like after that.  **`validate_iff`** says for which rows it is:

* There has to be a member.  A guild without any is disbanded by `DeleteMember`, which finds nobody to
  lead it, and by `Validate` once more.
* The ranks are counted in eight bits, so that 261 of them can pass for five.
* A member is lowered if his rank is above the number of ranks, so one with just that number as his
  rank keeps a rank that does not exist, unless he ends as the leader.
-/

open Std (ExtTreeMap)

namespace Gundrak

/-! ## Loading -/

/-- A row of `guild_rank`. -/
structure RankRow where
  rid : UInt8
  rname : String
  rights : UInt32
  BankMoneyPerDay : UInt32

/-- A row of `guild_member`, with what is joined to it from `guild_member_withdraw` and
`characters`. -/
structure MemberRow where
  guid : ObjectGuid
  rank : UInt8
  withdraw : Fin 7 → UInt32
  name : String
  level : UInt8
  cls : UInt8

/-- A row of `guild_bank_right`. -/
structure BankRightRow where
  TabId : UInt8
  rid : UInt8
  gbright : UInt8
  SlotPerDay : UInt32

/-- The rows of a guild. -/
structure GuildRows where
  leaderguid : ObjectGuid
  BankMoney : UInt64
  /-- how many rows of `guild_bank_tab` there are -/
  bankTabs : UInt64
  ranks : List RankRow
  members : List MemberRow
  bankRights : List BankRightRow

/-- `RankInfo::LoadFromDB`. -/
def RankInfo.LoadFromDB (row : RankRow) : RankInfo where
  m_rankId := row.rid
  m_name := row.rname
  m_rights := if row.rid = GR_GUILDMASTER then row.rights ||| GR_RIGHT_ALL else row.rights
  m_bankMoneyPerDay := row.BankMoneyPerDay
  m_bankTabRightsAndSlots _ := ⟨0, 0⟩

/-- `CLASS_WARRIOR`. -/
def CLASS_WARRIOR : UInt8 := 1

/-- `MAX_CLASSES`. -/
def MAX_CLASSES : UInt8 := 12

/-- `Member::LoadFromDB`; `none` when `CheckStats` fails. -/
def Member.LoadFromDB (row : MemberRow) : Option Member :=
  if row.level < 1 ∨ row.cls < CLASS_WARRIOR ∨ row.cls ≥ MAX_CLASSES then none
  else some ⟨row.guid, row.name, row.rank, fun i ↦ int32 (row.withdraw i).toNat⟩

namespace Guild

variable (guild : Guild)

/-- `Guild::LoadRankFromDB`. -/
def LoadRankFromDB (row : RankRow) : Guild :=
  { guild with m_ranks := guild.m_ranks ++ [RankInfo.LoadFromDB row] }

/-- `Guild::LoadBankRightFromDB`. -/
def LoadBankRightFromDB (row : BankRightRow) : Guild :=
  if h : row.TabId.toNat < 6 then
    if row.TabId.toNat ≥ guild.purchasedTabs then guild
    else
      match guild.GetRankInfo row.rid with
      | none => guild
      | some rankInfo =>
        { guild with
          m_ranks := guild.m_ranks.set row.rid.toNat
            (rankInfo.SetBankTabSlotsAndRights ⟨row.TabId.toNat, h⟩ ⟨row.gbright, row.SlotPerDay⟩) }
  else guild

end Guild

/-- `Guild::LoadMemberFromDB`. -/
def GuildWorld.LoadMemberFromDB (w : GuildWorld) (row : MemberRow) : GuildWorld :=
  match Member.LoadFromDB row with
  | none => w
  | some member =>
    { guild := { w.guild with m_members := w.guild.m_members.insert row.guid member }
      inGuild := insert row.guid w.inGuild }

namespace GuildRows

variable (rows : GuildRows)

/-- `Guild::LoadFromDB`. -/
def LoadFromDB : Guild where
  m_leaderGuid := rows.leaderguid
  m_bankMoney := rows.BankMoney
  m_ranks := []
  m_members := ∅
  purchasedTabs := min rows.bankTabs.toUInt8.toNat 6

/-- What `GuildMgr::LoadGuilds` makes of the rows of one guild; `inGuild` are the members of the
others. -/
def load (inGuild : Finset ObjectGuid) : GuildWorld :=
  let guild := rows.ranks.foldl Guild.LoadRankFromDB rows.LoadFromDB
  let w := rows.members.foldl GuildWorld.LoadMemberFromDB ⟨guild, inGuild⟩
  { w with guild := rows.bankRights.foldl Guild.LoadBankRightFromDB w.guild }

/-- There is a row that has set the rights of a rank for a tab. -/
def tabLoaded (rankId : ℕ) (tabId : Fin 6) : Bool :=
  rows.bankRights.any fun row ↦ row.rid.toNat == rankId && row.TabId.toNat == tabId.val

end GuildRows

/-! ## `Validate` -/

/-- `RankInfo::CreateMissingTabsIfNeeded`; `tabLoaded` tells the tabs that have their number. -/
def RankInfo.CreateMissingTabsIfNeeded (rank : RankInfo) (tabs : ℕ) (tabLoaded : Fin 6 → Bool) :
    RankInfo :=
  { rank with
    m_bankTabRightsAndSlots := fun tabId ↦
      if tabId.val < tabs ∧ tabLoaded tabId = false ∧ rank.m_rankId = GR_GUILDMASTER then
        .guildMasterValues
      else rank.m_bankTabRightsAndSlots tabId }

namespace Guild

variable (guild : Guild)

/-- `broken_ranks`, as it is when the ranks have been looked at. -/
def broken_ranks : Bool :=
  if guild.GetRanksSize < GUILD_RANKS_MIN_COUNT ∨ guild.GetRanksSize > GUILD_RANKS_MAX_COUNT then true
  else (List.range guild.GetRanksSize.toNat).any fun rankId ↦
    (guild.GetRankInfo (UInt8.ofNat rankId)).any fun rankInfo ↦ rankInfo.m_rankId != UInt8.ofNat rankId

/-- The part of `Validate` about the ranks. -/
def validateRanks (tabLoaded : ℕ → Fin 6 → Bool) (names : Fin 5 → String) : Guild :=
  if guild.broken_ranks then { guild with m_ranks := [] }.CreateDefaultGuildRanks names
  else
    { guild with
      m_ranks := guild.m_ranks.mapIdx fun rankId rankInfo ↦
        if rankId < guild.GetRanksSize.toNat then
          rankInfo.CreateMissingTabsIfNeeded guild.purchasedTabs (tabLoaded rankId)
        else rankInfo }

/-- The loop of `Validate` about the ranks of the members. -/
def validateMembers : Guild :=
  { guild with
    m_members := guild.m_members.map fun _ member ↦
      if member.m_rankId > guild.GetRanksSize then member.ChangeRank guild.GetLowestRankId else member }

/-- The loop of `Validate` that leaves one guild master. -/
def singleGuildMaster : Guild :=
  { guild with
    m_members := guild.m_members.map fun _ member ↦
      if member.m_rankId = GR_GUILDMASTER ∧ !member.IsSamePlayer guild.m_leaderGuid then
        member.ChangeRank GR_OFFICER
      else member }

end Guild

/-- A guild that is being validated, and how often it has been disbanded. -/
structure Validation where
  world : GuildWorld
  disbanded : ℕ

namespace Validation

variable (v : Validation)

/-- `Guild::Disband`. -/
def Disband : Validation := ⟨v.world.guild.m_members.keys.foldl GuildWorld.eraseMember v.world, v.disbanded + 1⟩

/-- `DeleteMember`, which may disband the guild. -/
def DeleteMember (guid : ObjectGuid) (walk : List ObjectGuid) : Validation :=
  match v.world.DeleteMember guid walk with
  | none => v.Disband
  | some w => { v with world := w }

/-- The end of `Validate`, after the leader has been found. -/
def finish (allowMultiple : Bool) : Bool × Validation := (true, if allowMultiple then v
    else { v with world := { v.world with guild := v.world.guild.singleGuildMaster } })

/-- The part of `Validate` about the leader, and the end.  `walk` is the walk of `DeleteMember`. -/
def validateLeader (walk : List ObjectGuid) (allowMultiple : Bool) : Bool × Validation :=
  match v.world.guild.GetMember v.world.guild.m_leaderGuid with
  | none =>
    let v := v.DeleteMember v.world.guild.m_leaderGuid walk
    if v.world.guild.m_members.isEmpty then (false, v.Disband) else v.finish allowMultiple
  | some pLeader =>
    if !pLeader.IsRank GR_GUILDMASTER then
      finish { v with world := { v.world with guild := v.world.guild.SetLeaderGUID pLeader } }
        allowMultiple
    else v.finish allowMultiple

end Validation

/-- `Guild::Validate` up to the loop about the members; `names` are the names of the default ranks. -/
def GuildWorld.validated (w : GuildWorld) (tabLoaded : ℕ → Fin 6 → Bool) (names : Fin 5 → String) :
    Validation :=
  ⟨{ w with guild := (w.guild.validateRanks tabLoaded names).validateMembers }, 0⟩

/-- `Guild::Validate`; `allowMultiple` is `Guild.AllowMultipleGuildMaster`. -/
def GuildWorld.Validate (w : GuildWorld) (tabLoaded : ℕ → Fin 6 → Bool) (names : Fin 5 → String)
    (walk : List ObjectGuid) (allowMultiple : Bool) : Bool × Validation :=
  (w.validated tabLoaded names).validateLeader walk allowMultiple

/-! ## What is claimed -/

/-- What a guild should be like when it has been validated. -/
structure Guild.Valid (allowMultiple : Bool) (guild : Guild) : Prop where
  five_le : 5 ≤ guild.m_ranks.length
  le_ten : guild.m_ranks.length ≤ 10
  numbered : guild.m_ranks.map (·.m_rankId.toNat) = List.range guild.m_ranks.length
  sound : RanksSound guild
  single : allowMultiple = false → ∀ (guid : ObjectGuid) (member : Member),
    guild.m_members[guid]? = some member → member.m_rankId = GR_GUILDMASTER → guid = guild.m_leaderGuid

/-- The ranks have the numbers 0, 1, 2 and so on, and there are five to ten of them. -/
def Guild.RanksInOrder (ranks : List RankInfo) : Prop :=
  5 ≤ ranks.length ∧ ranks.length ≤ 10 ∧ ranks.map (·.m_rankId.toNat) = List.range ranks.length

instance (ranks : List RankInfo) : Decidable (Guild.RanksInOrder ranks) := inferInstanceAs (Decidable (_ ∧ _))

namespace Guild

variable (guild : Guild)

/-- How many ranks the guild should have when it has been validated. -/
def rankCount : ℕ := if RanksInOrder guild.m_ranks then guild.m_ranks.length else 5

/-- There is a member; no more than ten ranks are counted as five to ten; and a member whose rank is the
number of the ranks is the leader, or there is no leader and no other member. -/
structure Repairable : Prop where
  member : ∃ guid, guid ∈ guild.m_members
  counted : 10 < guild.m_ranks.length → ¬ RanksInOrder (guild.m_ranks.take (guild.m_ranks.length % 256))
  boundary : ∀ (guid : ObjectGuid) (member : Member), guild.m_members[guid]? = some member →
    member.m_rankId.toNat = guild.rankCount → guid = guild.m_leaderGuid ∨
        (guild.m_leaderGuid ∉ guild.m_members ∧ ∀ other ∈ guild.m_members, other = guid)

end Guild

/-! ## The ranks -/

namespace Guild

variable {guild : Guild} {tabLoaded : ℕ → Fin 6 → Bool} {names : Fin 5 → String}

theorem toNat_GetRanksSize (guild : Guild) : guild.GetRanksSize.toNat = guild.m_ranks.length % 256 := UInt8.toNat_ofNat'

theorem m_rankId_mapIdx (ranks : List RankInfo) (f : ℕ → RankInfo → RankInfo)
    (hf : ∀ i rank, (f i rank).m_rankId = rank.m_rankId) :
    (ranks.mapIdx f).map (·.m_rankId.toNat) = ranks.map (·.m_rankId.toNat) := by
  refine List.ext_getElem (by simp) fun i h h' ↦ ?_
  simp [hf]

/-- The ranks are broken unless those that are counted are in order. -/
theorem broken_ranks_eq_false_iff :
    guild.broken_ranks = false ↔ RanksInOrder (guild.m_ranks.take (guild.m_ranks.length % 256)) := by
  have hsize := toNat_GetRanksSize guild
  have hlength : (guild.m_ranks.take (guild.m_ranks.length % 256)).length = guild.m_ranks.length % 256 := by
    rw [List.length_take]
    exact min_eq_left (Nat.mod_le _ _)
  have hmin : guild.GetRanksSize < GUILD_RANKS_MIN_COUNT ↔ guild.m_ranks.length % 256 < 5 := by
    rw [UInt8.lt_iff_toNat_lt, hsize]
    rfl
  have hmax : guild.GetRanksSize > GUILD_RANKS_MAX_COUNT ↔ 10 < guild.m_ranks.length % 256 := by
    rw [gt_iff_lt, UInt8.lt_iff_toNat_lt, hsize]
    rfl
  unfold broken_ranks RanksInOrder
  rw [hlength]
  split_ifs with hcount
  · rw [hmin, hmax] at hcount
    refine iff_of_false (by simp) fun h ↦ ?_
    omega
  · rw [hmin, hmax] at hcount
    have hget : ∀ i < guild.m_ranks.length % 256, ∃ rank, guild.m_ranks[i]? = some rank ∧
        guild.GetRankInfo (UInt8.ofNat i) = some rank := by
      intro i hi
      have hi' : i < guild.m_ranks.length := hi.trans_le (Nat.mod_le _ _)
      have hnat : (UInt8.ofNat i).toNat = i := by
        rw [UInt8.toNat_ofNat']
        exact Nat.mod_eq_of_lt (hi.trans (Nat.mod_lt _ (by omega)))
      refine ⟨_, List.getElem?_eq_getElem hi', ?_⟩
      rw [GetRankInfo, if_pos (by rwa [UInt8.lt_iff_toNat_lt, hnat, hsize]), hnat, List.getElem?_eq_getElem hi']
    rw [hsize, List.any_eq_false]
    constructor
    · intro h
      refine ⟨by omega, by omega, List.ext_getElem (by simpa using Nat.mod_le _ _) fun i hi hi' ↦ ?_⟩
      have hlt : i < guild.m_ranks.length % 256 := by simpa using hi'
      obtain ⟨rank, hrank, hinfo⟩ := hget i hlt
      have hno := h i (List.mem_range.mpr hlt)
      rw [hinfo] at hno
      have hid : rank.m_rankId = UInt8.ofNat i := by simpa using hno
      rw [List.getElem_map, List.getElem_take, List.getElem_range,
        Option.some_inj.mp ((List.getElem?_eq_getElem _).symm.trans hrank), hid, UInt8.toNat_ofNat']
      exact Nat.mod_eq_of_lt (hlt.trans (Nat.mod_lt _ (by omega)))
    · rintro ⟨-, -, hids⟩ i hi
      have hlt := List.mem_range.mp hi
      obtain ⟨rank, hrank, hinfo⟩ := hget i hlt
      have hid : rank.m_rankId.toNat = i := by
        have h := congrArg (·[i]?) hids
        simpa [List.getElem?_take, hlt, hrank, List.getElem?_range hlt] using h
      rw [hinfo]
      have heq : rank.m_rankId = UInt8.ofNat i := by
        simp [← hid]
      simp [heq]

theorem broken_ranks_iff (h : guild.m_ranks.length ≤ 10) : guild.broken_ranks = false ↔ RanksInOrder guild.m_ranks := by
  rw [broken_ranks_eq_false_iff, Nat.mod_eq_of_lt (by omega), List.take_length]

@[simp] theorem validateRanks_members (guild : Guild) :
    (guild.validateRanks tabLoaded names).m_members = guild.m_members := by
  unfold validateRanks
  split_ifs <;> simp [CreateDefaultGuildRanks]

@[simp] theorem validateRanks_leaderGuid (guild : Guild) :
    (guild.validateRanks tabLoaded names).m_leaderGuid = guild.m_leaderGuid := by
  unfold validateRanks
  split_ifs <;> simp [CreateDefaultGuildRanks]

variable (tabLoaded names) in
theorem validateRanks_of_broken (h : guild.broken_ranks = true) :
    RanksInOrder (guild.validateRanks tabLoaded names).m_ranks ∧
      (guild.validateRanks tabLoaded names).m_ranks.length = 5 := by
  unfold validateRanks
  rw [if_pos h]
  have hlength : (({ guild with m_ranks := [] } : Guild).CreateDefaultGuildRanks names).m_ranks.length = 5 := rfl
  refine ⟨⟨hlength.ge, by omega, ?_⟩, hlength⟩
  rw [hlength]
  rfl

variable (tabLoaded names) in
theorem validateRanks_of_not_broken (h : guild.broken_ranks = false) :
    (guild.validateRanks tabLoaded names).m_ranks.length = guild.m_ranks.length ∧
      (guild.validateRanks tabLoaded names).m_ranks.map (·.m_rankId.toNat) = guild.m_ranks.map (·.m_rankId.toNat) := by
  unfold validateRanks
  rw [if_neg (by simp [h])]
  refine ⟨List.length_mapIdx, m_rankId_mapIdx _ _ fun i rank ↦ ?_⟩
  split_ifs <;> rfl

/-- Afterwards the ranks are in order, unless more than ten have been counted as five to ten. -/
theorem RanksInOrder_validateRanks_iff : RanksInOrder (guild.validateRanks tabLoaded names).m_ranks ↔
      (10 < guild.m_ranks.length → ¬ RanksInOrder (guild.m_ranks.take (guild.m_ranks.length % 256))) := by
  rw [← broken_ranks_eq_false_iff, Bool.not_eq_false]
  cases h : guild.broken_ranks with
  | true => exact iff_of_true (validateRanks_of_broken tabLoaded names h).1 fun _ ↦ rfl
  | false =>
    obtain ⟨hlength, hids⟩ := validateRanks_of_not_broken tabLoaded names h
    unfold RanksInOrder
    rw [hlength, hids]
    constructor
    · rintro ⟨-, hle, -⟩ hlt
      omega
    · intro hle
      exact (broken_ranks_iff (by by_contra hlt; simp at hle; omega)).mp h

theorem length_validateRanks (h : RanksInOrder (guild.validateRanks tabLoaded names).m_ranks) :
    (guild.validateRanks tabLoaded names).m_ranks.length = guild.rankCount := by
  unfold rankCount
  cases hbroken : guild.broken_ranks with
  | true =>
    have hnot : ¬ RanksInOrder guild.m_ranks := by
      intro horder
      simp [← broken_ranks_iff horder.2.1, hbroken] at horder
    rw [if_neg hnot, (validateRanks_of_broken tabLoaded names hbroken).2]
  | false =>
    have hlength := (validateRanks_of_not_broken tabLoaded names hbroken).1
    have hle : guild.m_ranks.length ≤ 10 := hlength ▸ h.2.1
    rw [if_pos ((broken_ranks_iff hle).mp hbroken), hlength]

end Guild

/-! ## The members -/

namespace GuildRows

variable (rows : GuildRows)

theorem LoadMemberFromDB_guid {w : GuildWorld} (row : MemberRow)
    (h : ∀ (a : ObjectGuid) (member : Member), w.guild.m_members[a]? = some member → member.m_guid = a)
    (a : ObjectGuid) (member : Member)
    (ha : (w.LoadMemberFromDB row).guild.m_members[a]? = some member) : member.m_guid = a := by
  unfold GuildWorld.LoadMemberFromDB at ha
  cases hload : Member.LoadFromDB row with
  | none =>
    rw [hload] at ha
    exact h a member ha
  | some loaded =>
    rw [hload] at ha
    rw [TreeMap.get_insert] at ha
    split_ifs at ha with hguid
    · obtain ⟨-, hloaded⟩ := Option.ite_none_left_eq_some.mp hload
      rw [← Option.some_inj.mp ha, ← Option.some_inj.mp hloaded]
      exact hguid
    · exact h a member ha

theorem LoadBankRightFromDB_members (guild : Guild) (row : BankRightRow) :
    (guild.LoadBankRightFromDB row).m_members = guild.m_members := by
  unfold Guild.LoadBankRightFromDB
  split_ifs
  · rfl
  · cases guild.GetRankInfo row.rid <;> rfl
  · rfl

theorem load_guid (inGuild : Finset ObjectGuid) (a : ObjectGuid) (member : Member)
    (h : (rows.load inGuild).guild.m_members[a]? = some member) : member.m_guid = a := by
  have hrights : ∀ (bankRights : List BankRightRow) (guild : Guild),
      (bankRights.foldl Guild.LoadBankRightFromDB guild).m_members = guild.m_members := by
    intro bankRights
    induction bankRights with
    | nil => exact fun _ ↦ rfl
    | cons row rest ih => exact fun guild ↦ (ih _).trans (LoadBankRightFromDB_members guild row)
  have hmembers : ∀ (members : List MemberRow) (w : GuildWorld),
      (∀ (a : ObjectGuid) (member : Member), w.guild.m_members[a]? = some member → member.m_guid = a) →
      ∀ (a : ObjectGuid) (member : Member),
        (members.foldl GuildWorld.LoadMemberFromDB w).guild.m_members[a]? = some member → member.m_guid = a := by
    intro members
    induction members with
    | nil => exact fun _ h ↦ h
    | cons row rest ih => exact fun w h ↦ ih _ (LoadMemberFromDB_guid row h)
  have hranks : ∀ (ranks : List RankRow) (guild : Guild),
      (ranks.foldl Guild.LoadRankFromDB guild).m_members = guild.m_members := by
    intro ranks
    induction ranks with
    | nil => exact fun _ ↦ rfl
    | cons row rest ih => exact fun guild ↦ ih _
  rw [load, hrights] at h
  refine hmembers rows.members _ (fun a member ha ↦ ?_) a member h
  rw [hranks, LoadFromDB] at ha
  simp at ha

end GuildRows

theorem GuildWorld.mem_membersAlong {w : GuildWorld} {walk : List ObjectGuid} (h : w.IsWalk walk) {member : Member} :
    member ∈ w.guild.membersAlong walk ↔ ∃ a : ObjectGuid, w.guild.m_members[a]? = some member := by
  rw [Guild.membersAlong, List.mem_filterMap]
  constructor
  · rintro ⟨a, -, ha⟩
    exact ⟨a, ha⟩
  · rintro ⟨a, ha⟩
    exact ⟨a, h.mem_iff.mpr (ExtTreeMap.mem_keys.mpr ((TreeMap.mem_iff _ _).mpr ⟨member, ha⟩)), ha⟩

/-- The loop of `DeleteMember` ends with a member whose rank is as high as that of any it has seen. -/
theorem GuildWorld.foldl_considerLeader_le (guid : ObjectGuid) (members : List Member) (start : Option Member) :
    (∀ best, start = some best → ∃ newLeader,
      members.foldl (considerLeader guid) start = some newLeader ∧ newLeader.m_rankId ≤ best.m_rankId) ∧
    ∀ member ∈ members, member.m_guid ≠ guid → ∃ newLeader, members.foldl (considerLeader guid) start = some newLeader ∧
        newLeader.m_rankId ≤ member.m_rankId := by
  induction members generalizing start with
  | nil => exact ⟨fun best hbest ↦ ⟨best, hbest, UInt8.le_refl _⟩, by simp⟩
  | cons first rest ih =>
    obtain ⟨hstart, hrest⟩ := ih (considerLeader guid start first)
    have hseen (seen best : Member) (hbest : considerLeader guid start first = some best)
        (hle : best.m_rankId ≤ seen.m_rankId) : ∃ newLeader,
          rest.foldl (considerLeader guid) (considerLeader guid start first) = some newLeader ∧
            newLeader.m_rankId ≤ seen.m_rankId := by
      obtain ⟨newLeader, hfold, hle'⟩ := hstart best hbest
      exact ⟨newLeader, hfold, UInt8.le_trans hle' hle⟩
    refine ⟨fun best hbest ↦ ?_, fun member hmember hne ↦ ?_⟩
    · subst hbest
      by_cases hguid : first.m_guid = guid
      · exact hseen best best (if_pos hguid) (UInt8.le_refl _)
      · by_cases hlt : best.m_rankId > first.m_rankId
        · exact hseen best first (by simp [considerLeader, hguid, hlt]) (UInt8.le_of_lt hlt)
        · exact hseen best best (by simp [considerLeader, hlt]) (UInt8.le_refl _)
    · rcases List.mem_cons.mp hmember with rfl | hmember
      · cases start with
        | none => exact hseen member member (if_neg hne) (UInt8.le_refl _)
        | some best =>
          by_cases hlt : best.m_rankId > member.m_rankId
          · exact hseen member member (by simp [considerLeader, hne, hlt]) (UInt8.le_refl _)
          · exact hseen member best (by simp [considerLeader, hlt]) (UInt8.not_lt.mp hlt)
      · exact hrest member hmember hne

namespace Validation

variable {v : Validation} {walk : List ObjectGuid} {allowMultiple : Bool}

/-- The members under their own guids, and what their ranks are after the end of `Validate`. -/
theorem finish_spec (v : Validation) (allowMultiple : Bool)
    (hguid : ∀ (a : ObjectGuid) (member : Member), v.world.guild.m_members[a]? = some member → member.m_guid = a) :
    ∃ w', v.finish allowMultiple = (true, ⟨w', v.disbanded⟩) ∧
      w'.guild.m_leaderGuid = v.world.guild.m_leaderGuid ∧ w'.guild.m_ranks = v.world.guild.m_ranks ∧
      ∀ a : ObjectGuid, (w'.guild.m_members[a]?).map (·.m_rankId) = (v.world.guild.m_members[a]?).map fun member ↦
          if allowMultiple = false ∧ member.m_rankId = GR_GUILDMASTER ∧
            a ≠ v.world.guild.m_leaderGuid then GR_OFFICER else member.m_rankId := by
  cases allowMultiple with
  | true =>
    refine ⟨v.world, rfl, rfl, rfl, fun a ↦ ?_⟩
    simp
  | false =>
    refine ⟨_, rfl, rfl, rfl, fun a ↦ ?_⟩
    rw [Guild.singleGuildMaster, ExtTreeMap.getElem?_map, Option.map_map]
    refine Option.map_congr fun member hmember ↦ ?_
    have hself : (!member.IsSamePlayer v.world.guild.m_leaderGuid) = true ↔ a ≠ v.world.guild.m_leaderGuid := by
      rw [Member.IsSamePlayer, hguid a member hmember]
      simp
    simp only [Function.comp_apply, hself, true_and]
    split_ifs <;> rfl

theorem rank_SetLeaderGUID (guild : Guild) {pLeader : Member} {guid : ObjectGuid}
    (h : pLeader.m_guid = guid) (a : ObjectGuid) :
    ((guild.SetLeaderGUID pLeader).m_members[a]?).map (·.m_rankId) =
      (guild.m_members[a]?).map fun member ↦ if a = guid then GR_GUILDMASTER else member.m_rankId := by
  have hget : (guild.SetLeaderGUID pLeader).m_members[a]? = _ :=
    guild.get_modifyMember pLeader.m_guid a fun member ↦ member.ChangeRank GR_GUILDMASTER
  rw [hget, h]
  by_cases ha : guid = a
  · subst ha
    simp only [if_true, Option.map_map]
    rfl
  · simp [ha, (Ne.symm ha)]

/-- `found` is `v` after it has got the leader `leader`: the old one if he is still there, and else a
member whose rank is as high as any. -/
structure Led (v found : Validation) (leader : Member) : Prop where
  guid_eq : ∀ (a : ObjectGuid) (member : Member), found.world.guild.m_members[a]? = some member → member.m_guid = a
  disbanded : found.disbanded = v.disbanded
  ranks : found.world.guild.m_ranks = v.world.guild.m_ranks
  member : v.world.guild.m_members[found.world.guild.m_leaderGuid]? = some leader
  kept : v.world.guild.m_leaderGuid ∈ v.world.guild.m_members →
    found.world.guild.m_leaderGuid = v.world.guild.m_leaderGuid
  best : v.world.guild.m_leaderGuid ∉ v.world.guild.m_members →
    ∀ (a : ObjectGuid) (member : Member), v.world.guild.m_members[a]? = some member → leader.m_rankId ≤ member.m_rankId
  members : ∀ a : ObjectGuid, (found.world.guild.m_members[a]?).map (·.m_rankId) =
    (v.world.guild.m_members[a]?).map fun member ↦
      if a = found.world.guild.m_leaderGuid then GR_GUILDMASTER else member.m_rankId

theorem exists_led (allowMultiple : Bool)
    (hguid : ∀ (a : ObjectGuid) (member : Member), v.world.guild.m_members[a]? = some member → member.m_guid = a)
    (hwalk : v.world.IsWalk walk) (hmember : ∃ a, a ∈ v.world.guild.m_members) :
    ∃ found leader, v.validateLeader walk allowMultiple = found.finish allowMultiple ∧ Led v found leader := by
  have hguidSet (pLeader : Member) (a : ObjectGuid) (member : Member)
      (ha : (v.world.guild.SetLeaderGUID pLeader).m_members[a]? = some member) : member.m_guid = a := by
    obtain ⟨before, hbefore, heq, -⟩ := Guild.get_ChangeRank _ ha
    rw [heq, hguid a before hbefore]
  unfold validateLeader
  cases hleader : v.world.guild.GetMember v.world.guild.m_leaderGuid with
  | none =>
    have hnot : v.world.guild.m_leaderGuid ∉ v.world.guild.m_members := by
      rw [TreeMap.mem_iff]
      rintro ⟨member, h⟩
      simp [Guild.GetMember, h] at hleader
    have hother : ∀ (a : ObjectGuid) (member : Member), v.world.guild.m_members[a]? = some member →
        a ≠ v.world.guild.m_leaderGuid := by
      rintro a member ha rfl
      exact hnot ((TreeMap.mem_iff _ _).mpr ⟨member, ha⟩)
    obtain ⟨first, hfirst⟩ := hmember
    obtain ⟨firstMember, hfirst⟩ := (TreeMap.mem_iff _ _).mp hfirst
    have hwalked (a : ObjectGuid) (member : Member) (ha : v.world.guild.m_members[a]? = some member) :
        member ∈ v.world.guild.membersAlong walk ∧ member.m_guid ≠ v.world.guild.m_leaderGuid :=
      ⟨(GuildWorld.mem_membersAlong hwalk).mpr ⟨a, ha⟩, hguid a member ha ▸ hother a member ha⟩
    have hle := (GuildWorld.foldl_considerLeader_le v.world.guild.m_leaderGuid
      (v.world.guild.membersAlong walk) none).2
    rcases GuildWorld.foldl_considerLeader v.world.guild.m_leaderGuid (v.world.guild.membersAlong walk)
        none (by simp) with ⟨leader, hfold, hne, hmem⟩ | ⟨hfold, -⟩
    · obtain ⟨a, ha⟩ := (GuildWorld.mem_membersAlong hwalk).mp (hmem.resolve_right (by simp))
      have hself : v.world.guild.m_members[leader.m_guid]? = some leader := by rwa [hguid a leader ha]
      have hdelete : v.DeleteMember v.world.guild.m_leaderGuid walk =
          ⟨{ v.world with guild := v.world.guild.SetLeaderGUID leader }.eraseMember
            v.world.guild.m_leaderGuid, v.disbanded⟩ := by
        simp [DeleteMember, GuildWorld.DeleteMember, hfold]
      have hmembers (b : ObjectGuid) :
          ((v.DeleteMember v.world.guild.m_leaderGuid walk).world.guild.m_members[b]?).map (·.m_rankId) =
            (v.world.guild.m_members[b]?).map fun member ↦
              if b = leader.m_guid then GR_GUILDMASTER else member.m_rankId := by
        rw [hdelete]
        by_cases hb : v.world.guild.m_leaderGuid = b
        · have hnone : v.world.guild.m_members[b]? = none := by rwa [← hb]
          simp [GuildWorld.eraseMember, hb, hnone]
        · rw [GuildWorld.eraseMember, TreeMap.get_erase, if_neg hb]
          exact rank_SetLeaderGUID _ rfl b
      have hnonempty :
          (v.DeleteMember v.world.guild.m_leaderGuid walk).world.guild.m_members.isEmpty = false := by
        have hsome := hmembers leader.m_guid
        rw [hself, Option.map_some] at hsome
        obtain ⟨member, hmember, -⟩ := Option.map_eq_some_iff.mp hsome
        rw [Bool.eq_false_iff, ne_eq, ExtTreeMap.isEmpty_iff]
        intro hempty
        rw [hempty] at hmember
        simp at hmember
      dsimp only
      rw [if_neg (by simp [hnonempty])]
      refine ⟨_, leader, rfl, fun b member hb ↦ ?_, by rw [hdelete], by rw [hdelete]; rfl, ?_,
        fun h ↦ absurd h hnot, fun _ b member hb ↦ ?_, fun b ↦ ?_⟩
      · rw [hdelete, GuildWorld.eraseMember, TreeMap.get_erase, Option.ite_none_left_eq_some] at hb
        exact hguidSet leader b member hb.2
      · rw [hdelete]
        exact hself
      · obtain ⟨hmem, hne⟩ := hwalked b member hb
        obtain ⟨best, hbest, hle⟩ := hle member hmem hne
        rwa [Option.some_inj.mp (hfold.symm.trans hbest)]
      · rw [hmembers b, hdelete]
        rfl
    · obtain ⟨hmem, hne⟩ := hwalked first firstMember hfirst
      obtain ⟨best, hbest, -⟩ := hle firstMember hmem hne
      simp [hfold] at hbest
  | some pLeader =>
    have hself := hguid _ _ hleader
    have hmem : v.world.guild.m_leaderGuid ∈ v.world.guild.m_members := (TreeMap.mem_iff _ _).mpr ⟨pLeader, hleader⟩
    dsimp only
    split_ifs with hmaster
    · refine ⟨_, pLeader, rfl, hguidSet pLeader, rfl, rfl, ?_, fun _ ↦ hself,
        fun h ↦ absurd hmem h, rank_SetLeaderGUID _ rfl⟩
      exact (congrArg (v.world.guild.m_members[·]?) hself).trans hleader
    · refine ⟨v, pLeader, rfl, hguid, rfl, rfl, hleader, fun _ ↦ rfl, fun h ↦ absurd hmem h,
        fun a ↦ Option.map_congr fun member ha ↦ ?_⟩
      split_ifs with heq
      · rw [heq] at ha
        obtain rfl := Option.some_inj.mp (hleader.symm.trans ha)
        simpa [Member.IsRank] using hmaster
      · rfl

theorem Led.finish {found : Validation} {leader : Member} (h : Led v found leader) (allowMultiple : Bool) :
    ∃ w', found.finish allowMultiple = (true, ⟨w', v.disbanded⟩) ∧ w'.guild.m_ranks = v.world.guild.m_ranks ∧
      w'.guild.m_leaderGuid = found.world.guild.m_leaderGuid ∧
      ∀ a : ObjectGuid, (w'.guild.m_members[a]?).map (·.m_rankId) = (v.world.guild.m_members[a]?).map fun member ↦
          if a = found.world.guild.m_leaderGuid then GR_GUILDMASTER
          else if allowMultiple = false ∧ member.m_rankId = GR_GUILDMASTER then GR_OFFICER
          else member.m_rankId := by
  obtain ⟨w', hfinish, hleaderGuid, hranks, hmembers⟩ := found.finish_spec allowMultiple h.guid_eq
  refine ⟨w', by rw [hfinish, h.disbanded], hranks.trans h.ranks, hleaderGuid, fun a ↦ ?_⟩
  have hrank := h.members a
  rw [hmembers a]
  cases hfound : found.world.guild.m_members[a]? with
  | none =>
    rw [hfound, Option.map_none] at hrank
    rw [Option.map_none, eq_comm, Option.map_eq_none_iff]
    exact Option.map_eq_none_iff.mp hrank.symm
  | some member =>
    rw [hfound, Option.map_some] at hrank
    obtain ⟨before, hbefore, hrank⟩ := Option.map_eq_some_iff.mp hrank.symm
    rw [hbefore, Option.map_some, Option.map_some, ← hrank]
    by_cases ha : a = found.world.guild.m_leaderGuid <;> simp [ha]

end Validation

/-! ## The rows that are repaired -/

/-- The rank after the loop about the members, in a guild of `count` ranks. -/
def lowered (count rank : ℕ) : ℕ := if count < rank then count - 1 else rank

theorem Guild.rank_validateMembers {guild : Guild} (h : RanksInOrder guild.m_ranks) (a : ObjectGuid) :
    (guild.validateMembers.m_members[a]?).map (·.m_rankId.toNat) =
      (guild.m_members[a]?).map fun member ↦ lowered guild.m_ranks.length member.m_rankId.toNat := by
  obtain ⟨hmin, hmax, -⟩ := h
  have hsize : guild.GetRanksSize.toNat = guild.m_ranks.length := by
    rw [toNat_GetRanksSize]
    omega
  have hlowest : guild.GetLowestRankId.toNat = guild.m_ranks.length - 1 := by
    rw [GetLowestRankId, UInt8.toNat_sub, UInt8.toNat_ofNat', UInt8.toNat_one]
    omega
  rw [validateMembers, ExtTreeMap.getElem?_map, Option.map_map]
  refine Option.map_congr fun member _ ↦ ?_
  have habove : member.m_rankId > guild.GetRanksSize ↔ guild.m_ranks.length < member.m_rankId.toNat := by
    rw [gt_iff_lt, UInt8.lt_iff_toNat_lt, hsize]
  simp only [Function.comp_apply, habove, lowered]
  split_ifs
  · exact hlowest
  · rfl

theorem Guild.keys_validateMembers (guild : Guild) : guild.validateMembers.m_members.keys = guild.m_members.keys := by
  rw [validateMembers]
  simp

theorem Guild.mem_validateMembers (guild : Guild) (a : ObjectGuid) :
    a ∈ guild.validateMembers.m_members ↔ a ∈ guild.m_members := by
  rw [validateMembers]
  simp

theorem Guild.guid_validateMembers {guild : Guild}
    (h : ∀ (a : ObjectGuid) (member : Member), guild.m_members[a]? = some member → member.m_guid = a)
    (a : ObjectGuid) (member : Member) (ha : guild.validateMembers.m_members[a]? = some member) :
    member.m_guid = a := by
  rw [validateMembers, ExtTreeMap.getElem?_map, Option.map_eq_some_iff] at ha
  obtain ⟨before, hbefore, rfl⟩ := ha
  have hself := h a before hbefore
  split_ifs
  · exact hself
  · exact hself

section

variable {guild : Guild} {allowMultiple : Bool}

/-- What the ranks of the members are in the end, by what they were when the ranks of the guild had been
looked at. -/
theorem Guild.rank_final (horder : RanksInOrder guild.m_ranks) {final : Guild}
    (h : ∀ a : ObjectGuid, (final.m_members[a]?).map (·.m_rankId) =
      (guild.validateMembers.m_members[a]?).map fun member ↦
        if a = final.m_leaderGuid then GR_GUILDMASTER
        else if allowMultiple = false ∧ member.m_rankId = GR_GUILDMASTER then GR_OFFICER
        else member.m_rankId)
    (a : ObjectGuid) :
    (final.m_members[a]?).map (·.m_rankId.toNat) = (guild.m_members[a]?).map fun member ↦
        if a = final.m_leaderGuid then 0
        else if allowMultiple = false ∧ lowered guild.m_ranks.length member.m_rankId.toNat = 0 then 1
        else lowered guild.m_ranks.length member.m_rankId.toNat := by
  have hrank := rank_validateMembers horder a
  have hfinal := congrArg (Option.map UInt8.toNat) (h a)
  rw [Option.map_map, Option.map_map] at hfinal
  have hmaster (rank : UInt8) : rank = GR_GUILDMASTER ↔ rank.toNat = 0 := UInt8.toNat_inj.symm.trans Iff.rfl
  refine Eq.trans hfinal ?_
  cases hafter : guild.validateMembers.m_members[a]? with
  | none =>
    rw [hafter, Option.map_none] at hrank
    rw [Option.map_none, eq_comm, Option.map_eq_none_iff]
    exact Option.map_eq_none_iff.mp hrank.symm
  | some after =>
    rw [hafter, Option.map_some] at hrank
    obtain ⟨member, hmember, hlowered⟩ := Option.map_eq_some_iff.mp hrank.symm
    rw [hmember, Option.map_some, Option.map_some, hlowered]
    simp only [Function.comp_apply, hmaster]
    split_ifs <;> rfl

/-- The guild is valid if nobody but the leader comes with the number of the ranks as his rank. -/
theorem Guild.valid_iff (horder : RanksInOrder guild.m_ranks) {final : Guild} (hranks : final.m_ranks = guild.m_ranks)
    (hleader : ∃ member, guild.m_members[final.m_leaderGuid]? = some member)
    (h : ∀ a : ObjectGuid, (final.m_members[a]?).map (·.m_rankId.toNat) = (guild.m_members[a]?).map fun member ↦
        if a = final.m_leaderGuid then 0
        else if allowMultiple = false ∧ lowered guild.m_ranks.length member.m_rankId.toNat = 0 then 1
        else lowered guild.m_ranks.length member.m_rankId.toNat) :
    final.Valid allowMultiple ↔ ∀ (a : ObjectGuid) (member : Member), guild.m_members[a]? = some member →
        member.m_rankId.toNat = guild.m_ranks.length → a = final.m_leaderGuid := by
  obtain ⟨hmin, hmax, hnumbered⟩ := horder
  constructor
  · intro hvalid a member ha hrank
    by_contra hne
    have hfinal := h a
    have hkeeps : lowered guild.m_ranks.length guild.m_ranks.length = guild.m_ranks.length := if_neg (lt_irrefl _)
    rw [ha, Option.map_some, if_neg hne, hrank, hkeeps, if_neg (by rintro ⟨-, hzero⟩; omega)] at hfinal
    obtain ⟨after, hafter, heq⟩ := Option.map_eq_some_iff.mp hfinal
    have hlt := hvalid.sound.rank_lt a after hafter
    rw [hranks] at hlt
    omega
  · intro hboundary
    have hbefore {a : ObjectGuid} {after : Member} (ha : final.m_members[a]? = some after) :
        ∃ member, guild.m_members[a]? = some member ∧ after.m_rankId.toNat =
          if a = final.m_leaderGuid then 0
          else if allowMultiple = false ∧ lowered guild.m_ranks.length member.m_rankId.toNat = 0 then 1
          else lowered guild.m_ranks.length member.m_rankId.toNat := by
      have hfinal := h a
      rw [ha, Option.map_some] at hfinal
      obtain ⟨member, hmember, heq⟩ := Option.map_eq_some_iff.mp hfinal.symm
      exact ⟨member, hmember, heq.symm⟩
    refine ⟨hranks ▸ hmin, hranks ▸ hmax, hranks ▸ hnumbered, ⟨fun a after ha ↦ ?_, ?_⟩, ?_⟩
    · obtain ⟨member, hmember, heq⟩ := hbefore ha
      rw [hranks, heq]
      split_ifs with hself
      · omega
      · omega
      · have hne : member.m_rankId.toNat ≠ guild.m_ranks.length := fun hrank ↦
          hself (hboundary a member hmember hrank)
        unfold lowered
        split_ifs <;> omega
    · obtain ⟨member, hmember⟩ := hleader
      have hfinal := h final.m_leaderGuid
      rw [hmember, Option.map_some, if_pos rfl] at hfinal
      obtain ⟨after, hafter, hrank⟩ := Option.map_eq_some_iff.mp hfinal
      exact ⟨after, hafter, UInt8.toNat_inj.mp hrank⟩
    · intro hsingle a after ha hmaster
      obtain ⟨member, hmember, heq⟩ := hbefore ha
      by_contra hne
      rw [if_neg hne, hmaster] at heq
      split_ifs at heq with hzero
      · exact absurd heq (by decide)
      · exact hzero ⟨hsingle, heq.symm⟩

/-- Nobody but the new leader comes with the number of the ranks as his rank: this can be said without
knowing him. -/
theorem Validation.Led.boundary_iff {v found : Validation} {leader : Member} (hled : Led v found leader)
    (horder : Guild.RanksInOrder guild.m_ranks) (hv : v.world.guild = guild.validateMembers) :
    (∀ (a : ObjectGuid) (member : Member), guild.m_members[a]? = some member →
      member.m_rankId.toNat = guild.m_ranks.length → a = found.world.guild.m_leaderGuid) ↔
    ∀ (a : ObjectGuid) (member : Member), guild.m_members[a]? = some member →
      member.m_rankId.toNat = guild.m_ranks.length → a = guild.m_leaderGuid ∨
          (guild.m_leaderGuid ∉ guild.m_members ∧ ∀ other ∈ guild.m_members, other = a) := by
  have hmem (a : ObjectGuid) : a ∈ v.world.guild.m_members ↔ a ∈ guild.m_members := by
    rw [hv, Guild.mem_validateMembers]
  have hleaderGuid : v.world.guild.m_leaderGuid = guild.m_leaderGuid := by rw [hv]; rfl
  have hrankAfter {a : ObjectGuid} {member : Member} (ha : guild.m_members[a]? = some member) :
      ∃ after, v.world.guild.m_members[a]? = some after ∧
        after.m_rankId.toNat = lowered guild.m_ranks.length member.m_rankId.toNat := by
    have hrank := Guild.rank_validateMembers horder a
    rw [ha, Option.map_some, ← hv] at hrank
    exact Option.map_eq_some_iff.mp hrank
  have hkept := hled.kept
  rw [hmem, hleaderGuid] at hkept
  constructor
  · intro h a member ha hrank
    have hself := h a member ha hrank
    by_cases hold : guild.m_leaderGuid ∈ guild.m_members
    · exact .inl (hself.trans (hkept hold))
    · refine .inr ⟨hold, fun other hother ↦ ?_⟩
      -- the new leader has the lowest rank there is, so everybody else has it too
      obtain ⟨otherMember, hother⟩ := (TreeMap.mem_iff _ _).mp hother
      obtain ⟨after, hafter, hafterRank⟩ := hrankAfter hother
      obtain ⟨leader', hleader', hleaderRank⟩ := hrankAfter (hself ▸ ha)
      obtain rfl := Option.some_inj.mp (hleader'.symm.trans hled.member)
      have hle := UInt8.le_iff_toNat_le.mp
        (hled.best (by rwa [hleaderGuid, hmem]) other after hafter)
      rw [hafterRank, hleaderRank, hrank] at hle
      refine (h other otherMember hother ?_).trans hself.symm
      have hmin := horder.1
      unfold lowered at hle
      split_ifs at hle <;> omega
  · intro h a member ha hrank
    rcases h a member ha hrank with rfl | ⟨-, honly⟩
    · exact (hkept ((TreeMap.mem_iff _ _).mpr ⟨member, ha⟩)).symm
    · refine (honly _ ?_).symm
      exact (hmem _).mp ((TreeMap.mem_iff _ _).mpr ⟨leader, hled.member⟩)

end

namespace GuildWorld

variable (w : GuildWorld) (tabLoaded : ℕ → Fin 6 → Bool) (names : Fin 5 → String)
  {walk : List ObjectGuid}

theorem mem_validated (a : ObjectGuid) :
    a ∈ (w.validated tabLoaded names).world.guild.m_members ↔ a ∈ w.guild.m_members := by
  have hmem := Guild.mem_validateMembers (w.guild.validateRanks tabLoaded names) a
  rwa [Guild.validateRanks_members] at hmem

theorem exists_led (allowMultiple : Bool)
    (hguid : ∀ (a : ObjectGuid) (member : Member), w.guild.m_members[a]? = some member → member.m_guid = a)
    (hwalk : w.IsWalk walk) (hmember : ∃ a, a ∈ w.guild.m_members) :
    ∃ found leader, w.Validate tabLoaded names walk allowMultiple = found.finish allowMultiple ∧
      Validation.Led (w.validated tabLoaded names) found leader := by
  refine Validation.exists_led allowMultiple (Guild.guid_validateMembers fun a member ha ↦ ?_) ?_ ?_
  · rw [Guild.validateRanks_members] at ha
    exact hguid a member ha
  · have hkeys := Guild.keys_validateMembers (w.guild.validateRanks tabLoaded names)
    rw [Guild.validateRanks_members] at hkeys
    exact hwalk.trans (List.Perm.of_eq hkeys.symm)
  · obtain ⟨a, ha⟩ := hmember
    exact ⟨a, (w.mem_validated tabLoaded names a).mpr ha⟩

theorem Validate_of_empty (walk : List ObjectGuid) (allowMultiple : Bool) (h : ¬ ∃ a, a ∈ w.guild.m_members) :
    (w.Validate tabLoaded names walk allowMultiple).1 = false ∧
      (w.Validate tabLoaded names walk allowMultiple).2.disbanded = 2 := by
  have hempty : (w.validated tabLoaded names).world.guild.m_members = ∅ := by
    rw [ExtTreeMap.eq_empty_iff_forall_not_mem]
    exact fun a ha ↦ h ⟨a, (w.mem_validated tabLoaded names a).mp ha⟩
  have hdisband (v : Validation) (h : v.world.guild.m_members = ∅) :
      v.Disband = ⟨v.world, v.disbanded + 1⟩ := by
    have hkeys : v.world.guild.m_members.keys = [] := by
      rw [List.eq_nil_iff_forall_not_mem]
      intro a ha
      rw [ExtTreeMap.mem_keys, h] at ha
      exact ExtTreeMap.not_mem_empty ha
    rw [Validation.Disband, hkeys]
    rfl
  have hnobody (guid : ObjectGuid) :
      ((w.validated tabLoaded names).world.guild.membersAlong walk).foldl (considerLeader guid) none = none := by
    have hnil : (w.validated tabLoaded names).world.guild.membersAlong walk = [] := by
      rw [Guild.membersAlong, hempty]
      simp
    rw [hnil]
    rfl
  have hleader (guid : ObjectGuid) : (w.validated tabLoaded names).world.guild.GetMember guid = none := by
    rw [Guild.GetMember, hempty]
    exact ExtTreeMap.getElem?_empty
  have hdelete (guid : ObjectGuid) (h : (w.validated tabLoaded names).world.guild.m_leaderGuid = guid) :
      (w.validated tabLoaded names).DeleteMember guid walk = ⟨(w.validated tabLoaded names).world, 1⟩ := by
    rw [Validation.DeleteMember, DeleteMember, if_pos h, hnobody]
    exact hdisband _ hempty
  rw [Validate, Validation.validateLeader, hleader]
  rw [hdelete _ rfl, if_pos (by simp [hempty]), hdisband _ (by exact hempty)]
  exact ⟨rfl, rfl⟩

end GuildWorld

/-- **The guilds that are repaired.**  `Validate` leaves a valid guild, or one that has been disbanded
once, exactly if the rows are `Repairable`. -/
theorem validate_iff (rows : GuildRows) (inGuild : Finset ObjectGuid) (names : Fin 5 → String)
    (walk : List ObjectGuid) (allowMultiple : Bool) (hwalk : (rows.load inGuild).IsWalk walk) :
    (((rows.load inGuild).Validate rows.tabLoaded names walk allowMultiple).1 = true →
        ((rows.load inGuild).Validate rows.tabLoaded names walk
          allowMultiple).2.world.guild.Valid allowMultiple) ∧
      (((rows.load inGuild).Validate rows.tabLoaded names walk allowMultiple).1 = false →
        ((rows.load inGuild).Validate rows.tabLoaded names walk allowMultiple).2.disbanded = 1) ↔
      (rows.load inGuild).guild.Repairable := by
  have hguid := rows.load_guid inGuild
  generalize rows.load inGuild = w at *
  by_cases hmember : ∃ a, a ∈ w.guild.m_members
  · obtain ⟨found, leader, heq, hled⟩ := w.exists_led rows.tabLoaded names allowMultiple hguid hwalk hmember
    obtain ⟨w', hfinish, hranks, hleaderGuid, hmembers⟩ := hled.finish allowMultiple
    rw [hfinish] at heq
    rw [heq]
    have hvalid : w'.guild.Valid allowMultiple ↔ w.guild.Repairable := by
      by_cases horder : Guild.RanksInOrder (w.guild.validateRanks rows.tabLoaded names).m_ranks
      · have hcount := Guild.length_validateRanks horder
        have hboundary := hled.boundary_iff horder rfl
        rw [hcount, Guild.validateRanks_members, Guild.validateRanks_leaderGuid] at hboundary
        obtain ⟨member, hget⟩ :=
          (TreeMap.mem_iff _ _).mp ((w.mem_validated rows.tabLoaded names _).mp
            ((TreeMap.mem_iff _ _).mpr ⟨leader, hled.member⟩))
        rw [Guild.valid_iff horder hranks ⟨member, by rwa [Guild.validateRanks_members, hleaderGuid]⟩
          (Guild.rank_final horder (by rw [hleaderGuid]; exact hmembers)), hcount,
          Guild.validateRanks_members, hleaderGuid, hboundary]
        exact ⟨fun h ↦ ⟨hmember, Guild.RanksInOrder_validateRanks_iff.mp horder, h⟩, fun h ↦ h.boundary⟩
      · refine iff_of_false (fun h ↦ horder ?_) fun h ↦ horder ?_
        · have hranks' : w'.guild.m_ranks = (w.guild.validateRanks rows.tabLoaded names).m_ranks := hranks
          exact hranks' ▸ ⟨h.five_le, h.le_ten, h.numbered⟩
        · exact Guild.RanksInOrder_validateRanks_iff.mpr h.counted
    exact ⟨fun h ↦ hvalid.mp (h.1 rfl), fun h ↦ ⟨fun _ ↦ hvalid.mpr h, by simp⟩⟩
  · obtain ⟨hfalse, htwice⟩ := w.Validate_of_empty rows.tabLoaded names walk allowMultiple hmember
    refine iff_of_false (fun h ↦ ?_) fun h ↦ hmember h.member
    have honce := h.2 hfalse
    omega

/-- The rows of a guild with the ranks `ranks` and the leader 1. -/
def rowsOf (ranks : List UInt8) (members : List (ObjectGuid × UInt8)) : GuildRows where
  leaderguid := 1
  BankMoney := 0
  bankTabs := 0
  ranks := ranks.map fun rid ↦ ⟨rid, "", 0, 0⟩
  members := members.map fun p ↦ ⟨p.1, p.2, fun _ ↦ 0, "", 80, CLASS_WARRIOR⟩
  bankRights := []

/-- The third rank is missing, the leader has left, and a member has a rank that does not exist. -/
theorem valid_after_repair : ((rowsOf [0, 1, 3, 4, 5] [(2, 1), (3, 7)]).load ∅).IsWalk [3, 2] ∧
      ((rowsOf [0, 1, 3, 4, 5] [(2, 1), (3, 7)]).load ∅).guild.Repairable ∧
      ((((rowsOf [0, 1, 3, 4, 5] [(2, 1), (3, 7)]).load ∅).Validate
          (rowsOf [0, 1, 3, 4, 5] [(2, 1), (3, 7)]).tabLoaded (fun _ ↦ "") [3, 2] false).1 = true →
        (((rowsOf [0, 1, 3, 4, 5] [(2, 1), (3, 7)]).load ∅).Validate
          (rowsOf [0, 1, 3, 4, 5] [(2, 1), (3, 7)]).tabLoaded (fun _ ↦ "") [3, 2]
            false).2.world.guild.Valid false) := by
  have hwalk : ((rowsOf [0, 1, 3, 4, 5] [(2, 1), (3, 7)]).load ∅).IsWalk [3, 2] := by decide +kernel
  have hrepairable : ((rowsOf [0, 1, 3, 4, 5] [(2, 1), (3, 7)]).load ∅).guild.Repairable := by
    refine ⟨⟨2, by decide +kernel⟩, by decide +kernel, ?_⟩
    have hall := (TreeMap.forall_get_iff
      ((rowsOf [0, 1, 3, 4, 5] [(2, 1), (3, 7)]).load ∅).guild.m_members fun _ member ↦
        member.m_rankId.toNat ≠ 5).mpr (by decide +kernel)
    have hcount : ((rowsOf [0, 1, 3, 4, 5] [(2, 1), (3, 7)]).load ∅).guild.rankCount = 5 := by
      decide +kernel
    intro guid member hmember hrank
    exact absurd (hcount ▸ hrank) (hall guid member hmember)
  exact ⟨hwalk, hrepairable, ((validate_iff _ ∅ _ _ _ hwalk).mpr hrepairable).1⟩

/-- A guild of five ranks, with a member of rank five. -/
theorem not_valid_of_boundary :
    ¬ ∀ (rows : GuildRows) (inGuild : Finset ObjectGuid) (names : Fin 5 → String)
      (walk : List ObjectGuid) (allowMultiple : Bool), (rows.load inGuild).IsWalk walk →
      (((rows.load inGuild).Validate rows.tabLoaded names walk allowMultiple).1 = true →
        ((rows.load inGuild).Validate rows.tabLoaded names walk
          allowMultiple).2.world.guild.Valid allowMultiple) ∧
      (((rows.load inGuild).Validate rows.tabLoaded names walk allowMultiple).1 = false →
        ((rows.load inGuild).Validate rows.tabLoaded names walk allowMultiple).2.disbanded = 1) := by
  intro h
  have hwalk : ((rowsOf [0, 1, 2, 3, 4] [(1, 0), (2, 5)]).load ∅).IsWalk [1, 2] := by decide +kernel
  have hvalid := (h _ ∅ (fun _ ↦ "") _ false hwalk).1 (by decide +kernel)
  have hrank : (((((rowsOf [0, 1, 2, 3, 4] [(1, 0), (2, 5)]).load ∅).Validate
      (rowsOf [0, 1, 2, 3, 4] [(1, 0), (2, 5)]).tabLoaded (fun _ ↦ "") [1, 2]
        false).2.world.guild.m_members[2]?).map (·.m_rankId)) = some 5 := by
    decide +kernel
  have hlength : (((rowsOf [0, 1, 2, 3, 4] [(1, 0), (2, 5)]).load ∅).Validate
      (rowsOf [0, 1, 2, 3, 4] [(1, 0), (2, 5)]).tabLoaded (fun _ ↦ "") [1, 2]
        false).2.world.guild.m_ranks.length = 5 := by
    decide +kernel
  obtain ⟨member, hmember, hfive⟩ := Option.map_eq_some_iff.mp hrank
  have hlt := hvalid.sound.rank_lt 2 member hmember
  simp [hlength, hfive] at hlt

end Gundrak
