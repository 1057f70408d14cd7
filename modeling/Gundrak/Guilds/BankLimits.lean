import Gundrak.Guilds.GuildBank

/-!
# The daily limits of the guild bank

A withdrawal is `Honoured` when the limits of the rank mean what they say: who is not the guild master gets
it only if all that he has taken, with the new amount, is within the limit of his rank or this is
unlimited, money only with the right to take gold, and is not refused for an unlimited limit.

The server compares `int32` numbers, and this comes down to the window `Fits`: the limit less what is
counted, as a 32-bit number, is at least the amount and below `2 ^ 31`.  A withdrawal is honoured if this
window lies where it should (`Sound`).  It does not for an unlimited limit, unless more than `2 ^ 31` has
been taken; nor when more is taken than counted, which happens to items that a guild master takes, or a
member whose limit is not below `2 ^ 31`; nor when what is taken has grown past the limit by so much that
the difference is positive again.  And the right to repair is enough for gold.

**`withdrawals_honoured`** says that in a run whose calls are all sound every withdrawal is honoured, and
that in every run a call's withdrawals are honoured just when the call is sound.
-/

open Std (ExtTreeMap)

namespace Gundrak

/-! ## What is claimed -/

namespace Withdrawal

variable (w : Withdrawal)

/-- The limits mean what they say. -/
def Honoured : Prop := w.rankId ≠ GR_GUILDMASTER →
    (w.granted → w.limit = GUILD_WITHDRAW_UNLIMITED ∨ w.taken + w.amount ≤ w.limit.toNat) ∧
    (w.granted → w.goldToPlayer → w.rights &&& GR_RIGHT_WITHDRAW_GOLD ≠ 0) ∧
    (w.limit = GUILD_WITHDRAW_UNLIMITED → w.granted)

/-- The limit less what is counted, as a 32-bit number. -/
def left : ℕ := uint32 (w.limit.toNat - w.counted)

/-- The amount is within the window between 0 and the limit less what is counted. -/
def Fits : Prop := w.amount ≤ w.left ∧ w.left < 2 ^ 31

/-- The window lies where it should. -/
def Sound : Prop := w.rankId ≠ GR_GUILDMASTER → (w.limit = GUILD_WITHDRAW_UNLIMITED → w.Fits) ∧
    (w.limit ≠ GUILD_WITHDRAW_UNLIMITED → w.Fits → w.taken + w.amount ≤ w.limit.toNat) ∧
    (w.goldToPlayer → w.Fits → w.rights &&& GR_RIGHT_WITHDRAW_GOLD ≠ 0)

instance : Decidable w.Fits := inferInstanceAs (Decidable (_ ∧ _))

instance : Decidable w.Sound := inferInstanceAs (Decidable (_ → _))

/-- A withdrawal that is granted just when it fits is honoured just when it is sound. -/
theorem honoured_iff_sound (h : w.rankId ≠ GR_GUILDMASTER → (w.granted ↔ w.Fits)) : w.Honoured ↔ w.Sound := by
  refine forall_congr' fun hrank ↦ ?_
  rw [h hrank]
  constructor
  · rintro ⟨hlimit, hgold, hunlimited⟩
    exact ⟨hunlimited, fun hne hfits ↦ (hlimit hfits).resolve_left hne, fun htake hfits ↦ hgold hfits htake⟩
  · rintro ⟨hunlimited, hlimit, hgold⟩
    refine ⟨fun hfits ↦ ?_, fun hfits htake ↦ hgold htake hfits, hunlimited⟩
    by_cases hne : w.limit = GUILD_WITHDRAW_UNLIMITED
    · exact .inl hne
    · exact .inr (hlimit hne hfits)

end Withdrawal

/-- The calls whose withdrawals are sound. -/
def SoundCall (day : BankDay) (call : BankCall) : Prop := ∀ w ∈ day.asked call, w.Sound

/-! ## The window -/

/-- What is left of a limit is in the range of an `int32`, and the amount is within it when it is within
the window. -/
theorem le_remaining_iff (perDay : UInt32) (withdrawn : ℤ) {amount : ℕ} (hamount : 0 < amount) :
    ¬ uint32 (Guild.remaining (int32 perDay.toNat) (int32 withdrawn)) < amount ↔
      amount ≤ uint32 (perDay.toNat - withdrawn) ∧ uint32 (perDay.toNat - withdrawn) < 2 ^ 31 := by
  have hlt := perDay.toNat_lt
  dsimp only [Guild.remaining]
  split_ifs with hpos
  · rw [int32, int32, int32] at hpos
    rw [int32, int32, int32, uint32, uint32]
    omega
  · rw [int32, int32, int32] at hpos
    rw [uint32, uint32]
    omega

theorem remaining_ne_zero_iff (perDay : UInt32) (withdrawn : ℤ) :
    Guild.remaining (int32 perDay.toNat) (int32 withdrawn) ≠ 0 ↔
      1 ≤ uint32 (perDay.toNat - withdrawn) ∧ uint32 (perDay.toNat - withdrawn) < 2 ^ 31 := by
  rw [← le_remaining_iff perDay withdrawn Nat.one_pos, Guild.remaining]
  have hl := le_int32 (int32 perDay.toNat - int32 withdrawn)
  have hu := int32_lt (int32 perDay.toNat - int32 withdrawn)
  split_ifs with hpos
  · rw [uint32]
    omega
  · decide

/-! ## The counters -/

/-- What is counted of a member who has taken `taken`: the money is counted in full, in 32 bits, and what
is counted of the items does not get out of range. -/
structure Counts (taken : Fin 7 → ℕ) (member : Member) : Prop where
  money : member.m_bankWithdraw moneyTab = int32 (taken moneyTab)
  tabs : ∀ tabId : Fin 6, 0 ≤ member.m_bankWithdraw tabId.castSucc ∧ member.m_bankWithdraw tabId.castSucc < 2 ^ 31

/-- `Counts`, for all members. -/
def CountersSound (day : BankDay) : Prop :=
  ∀ (guid : ObjectGuid) (member : Member), day.guild.m_members[guid]? = some member → Counts (day.taken guid) member

/-- A guild whose members have the counters they had before. -/
def SameCounters (guild guild' : Guild) : Prop :=
  ∀ (guid : ObjectGuid) (member' : Member), guild'.m_members[guid]? = some member' →
    ∃ member, guild.m_members[guid]? = some member ∧ member'.m_bankWithdraw = member.m_bankWithdraw

section ranks

variable {guild guild' guild'' : Guild}

theorem SameCounters.of_members (h : guild'.m_members = guild.m_members) : SameCounters guild guild' :=
  fun _ member' hget ↦ ⟨member', h ▸ hget, rfl⟩

theorem SameCounters.trans (h : SameCounters guild guild') (h' : SameCounters guild' guild'') :
    SameCounters guild guild'' := by
  intro guid member'' hget
  obtain ⟨member', hget', heq'⟩ := h' guid member'' hget
  obtain ⟨member, hget, heq⟩ := h guid member' hget'
  exact ⟨member, hget, heq'.trans heq⟩

theorem sameCounters_changeRank (guild : Guild) (guid : ObjectGuid) (newRank : UInt8) :
    SameCounters guild (guild.ChangeRank guid newRank) := by
  intro a member' hget
  rw [Guild.ChangeRank, Guild.get_modifyMember] at hget
  by_cases ha : guid = a
  · subst ha
    rw [if_pos rfl, Option.map_eq_some_iff] at hget
    obtain ⟨member, hget, rfl⟩ := hget
    exact ⟨member, hget, rfl⟩
  · rw [if_neg ha] at hget
    exact ⟨member', hget, rfl⟩

/-- What happens to the ranks does not change what has been counted. -/
theorem sameCounters_ranks {day day' : BankDay} {call : GuildCall} (h : day.apply (.ranks call) = some day') :
    SameCounters day.guild day'.guild ∧ day'.taken = day.taken ∧ day'.withdrawals = day.withdrawals := by
  cases call with
  | AddMember | DeleteMember | otherGuild => exact absurd h (by simp [BankDay.apply])
  | ChangeMemberRank guid newRank =>
    obtain rfl := Option.some_inj.mp h
    refine ⟨?_, rfl, rfl⟩
    rcases day.guild.ChangeMemberRank_effect guid newRank with ⟨heq, -⟩ | ⟨-, heq⟩
    · exact .of_members (congrArg Guild.m_members heq)
    · exact heq ▸ sameCounters_changeRank _ _ _
  | HandleSetLeader player walk name =>
    obtain ⟨w, hw, rfl⟩ := Option.map_eq_some_iff.mp h
    obtain ⟨-, hw⟩ := Option.ite_none_right_eq_some.mp hw
    obtain rfl := Option.some_inj.mp hw
    refine ⟨?_, rfl, rfl⟩
    rcases day.guild.HandleSetLeader_effect player walk name with
      ⟨heq, -⟩ | ⟨pOldLeader, pNewLeader, -, -, -, heq⟩
    · exact .of_members (congrArg Guild.m_members heq)
    · have hleader : SameCounters day.guild (day.guild.SetLeaderGUID pNewLeader) :=
        sameCounters_changeRank _ pNewLeader.m_guid GR_GUILDMASTER
      exact heq ▸ hleader.trans (sameCounters_changeRank _ _ _)
  | HandleUpdateMemberRank player walk name demote =>
    obtain ⟨w, hw, rfl⟩ := Option.map_eq_some_iff.mp h
    obtain ⟨-, hw⟩ := Option.ite_none_right_eq_some.mp hw
    obtain rfl := Option.some_inj.mp hw
    refine ⟨?_, rfl, rfl⟩
    rcases day.guild.HandleUpdateMemberRank_effect player walk name demote with
      heq | ⟨member, memberMe, -, -, ⟨-, -, heq⟩ | ⟨-, heq⟩⟩
    · exact .of_members (congrArg Guild.m_members heq)
    · exact heq ▸ sameCounters_changeRank _ _ _
    · exact heq ▸ sameCounters_changeRank _ _ _
  | HandleAddNewRank player name =>
    obtain rfl := Option.some_inj.mp h
    obtain ⟨ranks, -, -, heq⟩ := day.guild.HandleAddNewRank_effect player name
    have hmembers : (day.guild.HandleAddNewRank player name).m_members = day.guild.m_members := by
      rw [heq]
    exact ⟨.of_members hmembers, rfl, rfl⟩
  | HandleRemoveLowestRank player =>
    obtain rfl := Option.some_inj.mp h
    refine ⟨?_, rfl, rfl⟩
    rcases day.guild.HandleRemoveLowestRank_effect player with ⟨heq, -⟩ | ⟨-, -, heq⟩
    · exact .of_members (congrArg Guild.m_members heq)
    · have hmembers : (day.guild.HandleRemoveLowestRank player).m_members = day.guild.m_members := by
        rw [heq]
      exact .of_members hmembers
  | HandleSetRankInfo player rankId name rights moneyPerDay rightsAndSlots =>
    obtain rfl := Option.some_inj.mp h
    obtain ⟨ranks, -, heq⟩ := day.guild.HandleSetRankInfo_effect player rankId name rights moneyPerDay rightsAndSlots
    have hmembers : (day.guild.HandleSetRankInfo player rankId name rights moneyPerDay
        rightsAndSlots).m_members = day.guild.m_members := by
      rw [heq]
    exact ⟨.of_members hmembers, rfl, rfl⟩

end ranks

/-! ## Withdrawals -/

variable {day : BankDay} {player : ObjectGuid} {tabId : Fin 6}

theorem bankWithdraw_update (member : Member) (tab t : Fin 7) (amount : UInt32) :
    (member.UpdateBankWithdrawValue tab amount).m_bankWithdraw t =
      if t = tab then int32 (member.m_bankWithdraw tab + amount.toNat)
      else member.m_bankWithdraw t := by
  simp [Member.UpdateBankWithdrawValue, Function.update_apply]

theorem castSucc_ne_moneyTab (tabId : Fin 6) : tabId.castSucc ≠ moneyTab := Fin.ne_of_lt (Fin.castSucc_lt_last tabId)

theorem getBankWithdrawValue {member : Member} (hrank : member.m_rankId ≠ GR_GUILDMASTER)
    (tab : Fin 7) : member.GetBankWithdrawValue tab = member.m_bankWithdraw tab :=
  if_neg (by simpa [Member.IsRank] using hrank)

theorem itemWithdrawal_fits (hs : CountersSound day) {w : Withdrawal} {granted : Bool}
    (hw : day.itemWithdrawal player tabId granted = some w) (hrank : w.rankId ≠ GR_GUILDMASTER)
    (hgranted : day.guild.HasWithdrawRights player (.bank tabId) .player = granted) :
    w.granted ↔ w.Fits := by
  rw [BankDay.itemWithdrawal, Option.bind_eq_some_iff] at hw
  obtain ⟨member, hmember, hw⟩ := hw
  obtain ⟨hview, hw⟩ := Option.ite_none_left_eq_some.mp hw
  obtain rfl := Option.some_inj.mp hw
  have hrank : member.m_rankId ≠ GR_GUILDMASTER := hrank
  obtain ⟨hl, hu⟩ := (hs player member hmember).tabs tabId
  have hcounted : int32 (member.m_bankWithdraw tabId.castSucc) =
      member.m_bankWithdraw tabId.castSucc := int32_of_mem (by omega) hu
  have hremaining : granted ↔ day.guild.GetMemberRemainingSlots member tabId ≠ 0 := by
    simpa [← hgranted, Guild.HasWithdrawRights, hmember] using bne_iff_ne
  rw [Guild.GetMemberRemainingSlots, if_neg hrank, getBankWithdrawValue hrank,
    Guild.GetRankBankTabSlotsPerDay] at hremaining
  show granted ↔ _
  by_cases hmay : day.guild.mayView member.m_rankId tabId = true
  · rw [if_pos hmay, ← hcounted, remaining_ne_zero_iff] at hremaining
    rw [hremaining, Withdrawal.Fits, Withdrawal.left]
    rw [Int.toNat_of_nonneg hl]
  · rw [if_neg hmay] at hremaining
    have hno : granted = false := by simpa using hremaining
    simp [hno, hmay] at hview

/-- The tabs that a move tells are those that the rights to withdraw were asked for. -/
theorem moveItems_tabs {guild : Guild} {pSrc pDest : MoveItemData} {outcome : MoveOutcome}
    {granted : Bool} (h : (tabId, granted) ∈ (guild.MoveItems player pSrc pDest outcome).2) :
    guild.HasWithdrawRights player (.bank tabId) .player = granted := by
  have hdrawn (side pOther : MoveItemData) (h : tabId ∈ Guild.drawnFrom side pOther) :
      guild.HasWithdrawRights player (.bank tabId) .player = guild.HasWithdrawRights player side pOther := by
    cases side with
    | player => exact absurd h List.not_mem_nil
    | bank tab =>
      by_cases hsame : pOther = .bank tab
      · simp [Guild.drawnFrom, hsame, List.not_mem_nil] at h
      · rw [Guild.drawnFrom, if_neg hsame, List.mem_singleton] at h
        subst h
        simp [Guild.HasWithdrawRights, hsame]
  have hmap {tabs : List (Fin 6)} {b : Bool}
      (h : (tabId, granted) ∈ tabs.map fun tabId ↦ (tabId, b)) : tabId ∈ tabs ∧ b = granted := by
    obtain ⟨t, ht, heq⟩ := List.mem_map.mp h
    obtain ⟨rfl, rfl⟩ := Prod.mk.inj heq
    exact ⟨ht, rfl⟩
  rw [Guild.MoveItems] at h
  split_ifs at h with h1 hsrc h3 h4 h5 h6 hdest h8
  · exact absurd h List.not_mem_nil
  · obtain ⟨ht, rfl⟩ := hmap h
    simpa [hdrawn _ _ ht] using hsrc
  · obtain ⟨ht, rfl⟩ := hmap h
    simpa [hdrawn _ _ ht] using hsrc
  · exact absurd h List.not_mem_nil
  · exact absurd h List.not_mem_nil
  · exact absurd h List.not_mem_nil
  · obtain ⟨ht, rfl⟩ := hmap h
    simpa [hdrawn _ _ ht] using hdest
  · exact absurd h List.not_mem_nil
  · obtain ⟨ht, rfl⟩ := hmap h
    rcases List.mem_append.mp ht with ht | ht
    · simpa [hdrawn _ _ ht] using hsrc
    · simpa [hdrawn _ _ ht] using hdest

theorem handleMemberWithdrawMoney_effect (guild : Guild) (player : ObjectGuid) (amount : UInt32)
    (repair : Bool) (purse : Purse) :
    guild.HandleMemberWithdrawMoney player amount repair purse = (guild, false) ∨
      ∃ member, guild.GetMember player = some member ∧
        ¬ uint32 (guild.GetMemberRemainingMoney member) < (Guild.clampMoney amount).toNat ∧
        guild.HandleMemberWithdrawMoney player amount repair purse = ({ guild.modifyMember player fun member ↦
              member.UpdateBankWithdrawValue moneyTab (Guild.clampMoney amount) with
              m_bankMoney := guild.m_bankMoney - (Guild.clampMoney amount).toUInt64 }, true) := by
  dsimp only [Guild.HandleMemberWithdrawMoney]
  by_cases hbank : guild.m_bankMoney < (Guild.clampMoney amount).toUInt64
  · exact .inl (if_pos hbank)
  · rw [if_neg hbank]
    cases guild.GetMember player with
    | none => exact .inl rfl
    | some member =>
      dsimp only
      split_ifs with hlimit hpurse
      · exact .inl rfl
      · exact .inl rfl
      · exact .inr ⟨member, rfl, hlimit, rfl⟩

theorem clampMoney_pos {amount : UInt32} (h : amount ≠ 0) : 0 < (Guild.clampMoney amount).toNat := by
  have hne : amount.toNat ≠ 0 := fun h0 ↦ h (UInt32.toNat_inj.mp h0)
  have hmax : MAX_MONEY_AMOUNT.toNat = 0x7FFFFFFF := rfl
  rw [Guild.clampMoney, UInt32.toNat_min]
  omega

/-- Money is granted just when it fits, unless it is refused for another reason. -/
theorem moneyWithdrawal_fits (hs : CountersSound day) {w : Withdrawal} {amount : UInt32} {purse : Purse}
    {repair : Bool} (hamount : amount ≠ 0)
    (hw : day.moneyWithdrawal player amount repair
      (day.guild.HandleMemberWithdrawMoney player amount repair purse).2 = some w)
    (hrank : w.rankId ≠ GR_GUILDMASTER) : w.granted ↔ w.Fits := by
  rw [BankDay.moneyWithdrawal, Option.bind_eq_some_iff] at hw
  obtain ⟨member, hmember, hw⟩ := hw
  obtain ⟨hrefused, hw⟩ := Option.ite_none_left_eq_some.mp hw
  obtain rfl := Option.some_inj.mp hw
  have hrank : member.m_rankId ≠ GR_GUILDMASTER := hrank
  have hpos := clampMoney_pos hamount
  have hremaining : day.guild.GetMemberRemainingMoney member =
      if day.guild.mayTakeMoney member.m_rankId then
        Guild.remaining (int32 (day.guild.rankMoneyPerDay member.m_rankId).toNat)
          (int32 (day.taken player moneyTab))
      else 0 := by
    rw [Guild.GetMemberRemainingMoney, if_neg hrank, getBankWithdrawValue hrank,
      (hs player member hmember).money, Guild.GetRankBankMoneyPerDay]
  rw [Withdrawal.Fits, Withdrawal.left]
  rw [← le_remaining_iff _ _ hpos]
  by_cases hmay : day.guild.mayTakeMoney member.m_rankId = true
  · rw [if_pos hmay] at hremaining
    rw [← hremaining]
    rcases handleMemberWithdrawMoney_effect day.guild player amount repair purse with
      heq | ⟨member', hmember', hlimit, heq⟩
    · rw [heq] at hrefused ⊢
      refine iff_of_false (by simp) (not_not.mpr ?_)
      simp only [Bool.not_false, Bool.true_and, Bool.not_eq_true', decide_eq_false_iff_not, not_not] at hrefused
      exact hrefused.2.2
    · rw [hmember, Option.some_inj] at hmember'
      rw [heq, hmember']
      exact iff_of_true rfl hlimit
  · rw [if_neg hmay] at hremaining
    rcases handleMemberWithdrawMoney_effect day.guild player amount repair purse with
      heq | ⟨member', hmember', hlimit, heq⟩
    · rw [heq] at hrefused
      simp [hmay] at hrefused
    · rw [hmember, Option.some_inj] at hmember'
      rw [← hmember', hremaining] at hlimit
      exact absurd hpos hlimit

theorem asked_fits (hs : CountersSound day) {call : BankCall} {day' : BankDay}
    (hnext : day.next call = some day') {w : Withdrawal} (hw : w ∈ day.asked call)
    (hrank : w.rankId ≠ GR_GUILDMASTER) : w.granted ↔ w.Fits := by
  have hitems {player : ObjectGuid} {tabs : List (Fin 6 × Bool)}
      (htabs : ∀ tabId granted, (tabId, granted) ∈ tabs →
        day.guild.HasWithdrawRights player (.bank tabId) .player = granted)
      (hw : w ∈ day.itemWithdrawals player tabs) : w.granted ↔ w.Fits := by
    obtain ⟨⟨tabId, granted⟩, hmem, hw⟩ := List.mem_filterMap.mp hw
    exact itemWithdrawal_fits hs hw hrank (htabs tabId granted hmem)
  cases call with
  | HandleMemberWithdrawMoney player amount repair purse =>
    obtain ⟨after, happly, -⟩ := Option.map_eq_some_iff.mp hnext
    obtain ⟨hamount, -⟩ := Option.ite_none_left_eq_some.mp happly
    exact moneyWithdrawal_fits hs hamount (Option.mem_toList.mp hw) hrank
  | SwapItems player tabId destTabId outcome =>
    refine hitems (fun tab granted hmem ↦ ?_) hw
    rw [Guild.SwapItems] at hmem
    split_ifs at hmem
    · exact absurd hmem List.not_mem_nil
    · exact moveItems_tabs hmem
  | SwapItemsWithInventory player toChar tabId outcome =>
    refine hitems (fun tab granted hmem ↦ ?_) hw
    rw [Guild.SwapItemsWithInventory] at hmem
    split_ifs at hmem
    · exact absurd hmem List.not_mem_nil
    · exact moveItems_tabs hmem
    · exact moveItems_tabs hmem
  | HandleMemberDepositMoney | ranks => exact absurd hw List.not_mem_nil

/-! ## Runs -/

theorem CountersSound.of_sameCounters {day' : BankDay} (hs : CountersSound day)
    (hguild : SameCounters day.guild day'.guild)
    (htaken : ∀ guid, day'.taken guid moneyTab = day.taken guid moneyTab) : CountersSound day' := by
  intro guid member' hget
  obtain ⟨member, hget, heq⟩ := hguild guid member' hget
  obtain ⟨hmoney, htabs⟩ := hs guid member hget
  exact ⟨by rw [heq, hmoney, htaken], fun tabId ↦ heq ▸ htabs tabId⟩

theorem CountersSound.removeItem (hs : CountersSound day) (side pOther : MoveItemData) :
    CountersSound { day with guild := day.guild.RemoveItem player side pOther } := by
  have hslots (tabId : Fin 6) :
      CountersSound { day with guild := day.guild.UpdateMemberWithdrawSlots player tabId } := by
    intro guid member' hget
    dsimp only [Guild.UpdateMemberWithdrawSlots] at hget
    cases hmember : day.guild.GetMember player with
    | none =>
      rw [hmember] at hget
      exact hs guid member' hget
    | some member =>
      rw [hmember] at hget
      dsimp only at hget
      split_ifs at hget with hcount
      · rw [Guild.get_modifyMember] at hget
        by_cases hguid : player = guid
        · subst hguid
          have hget' : day.guild.m_members[player]? = some member := hmember
          rw [if_pos rfl, hget', Option.map_some, Option.some_inj] at hget
          obtain ⟨hmoney, htabs⟩ := hs player member hmember
          obtain ⟨hrank, hlt⟩ := hcount
          rw [getBankWithdrawValue hrank, Guild.GetRankBankTabSlotsPerDay] at hlt
          have hmax := int32_lt (day.guild.rankTabSlotsPerDay member.m_rankId tabId).toNat
          obtain ⟨hl, hu⟩ := htabs tabId
          have hone : int32 (member.m_bankWithdraw tabId.castSucc + (1 : UInt32).toNat) =
              member.m_bankWithdraw tabId.castSucc + 1 := by
            refine int32_of_mem ?_ ?_ <;> rw [UInt32.toNat_one] <;> omega
          subst hget
          refine ⟨?_, fun t ↦ ?_⟩
          · rw [bankWithdraw_update, if_neg (castSucc_ne_moneyTab tabId).symm]
            exact hmoney
          · rw [bankWithdraw_update]
            split_ifs with ht
            · omega
            · exact htabs t
        · rw [if_neg hguid] at hget
          exact hs guid member' hget
      · exact hs guid member' hget
  cases side with
  | player => exact hs
  | bank tabId =>
    dsimp only [Guild.RemoveItem]
    split_ifs
    · exact hslots tabId
    · exact hs

theorem CountersSound.moveItems (hs : CountersSound day) (pSrc pDest : MoveItemData) (outcome : MoveOutcome) :
    CountersSound { day with guild := (day.guild.MoveItems player pSrc pDest outcome).1 } := by
  rw [Guild.MoveItems]
  split_ifs
  · exact hs
  · exact hs
  · exact hs.removeItem pSrc pDest
  · exact hs
  · exact hs
  · exact hs
  · exact hs
  · exact hs
  · have hsrc : CountersSound { day with guild := day.guild.RemoveItem player pSrc pDest } := hs.removeItem pSrc pDest
    exact hsrc.removeItem pDest pSrc

theorem CountersSound.moved {result : Guild × List (Fin 6 × Bool)}
    (hs : CountersSound { day with guild := result.1 }) : CountersSound (day.moved player result) := by
  rw [BankDay.moved]
  generalize { day with guild := result.1 } = after at hs
  generalize result.2 = tabs
  induction tabs generalizing after with
  | nil => exact hs
  | cons tab tabs ih =>
    refine ih _ ?_
    dsimp only
    split_ifs
    · refine hs.of_sameCounters (.of_members rfl) fun guid ↦ if_neg ?_
      exact fun h ↦ castSucc_ne_moneyTab _ h.2.symm
    · exact hs

theorem CountersSound.takeMoney (hs : CountersSound day) {guild : Guild} {amount : UInt32}
    (hguild : guild.m_members = day.guild.m_members.modify player fun member ↦
      member.UpdateBankWithdrawValue moneyTab amount) :
    CountersSound ({ day with guild := guild }.take player moneyTab amount.toNat) := by
  intro guid member' hget
  have hget : guild.m_members[guid]? = some member' := hget
  rw [hguild, TreeMap.get_modify] at hget
  by_cases hguid : player = guid
  · subst hguid
    rw [if_pos rfl, Option.map_eq_some_iff] at hget
    obtain ⟨member, hbefore, rfl⟩ := hget
    obtain ⟨hmoney, htabs⟩ := hs player member hbefore
    refine ⟨?_, fun tabId ↦ ?_⟩
    · simp [bankWithdraw_update, hmoney, int32_int32_add, BankDay.take]
    · rw [bankWithdraw_update, if_neg (castSucc_ne_moneyTab tabId)]
      exact htabs tabId
  · rw [if_neg hguid] at hget
    obtain ⟨hmoney, htabs⟩ := hs guid member' hget
    refine ⟨?_, htabs⟩
    rw [hmoney, BankDay.take]
    dsimp only
    rw [if_neg fun h ↦ hguid h.1.symm]

theorem CountersSound.next (hs : CountersSound day) {call : BankCall} {day' : BankDay}
    (hnext : day.next call = some day') : CountersSound day' := by
  obtain ⟨after, happly, rfl⟩ := Option.map_eq_some_iff.mp hnext
  have hafter : CountersSound after := by
    cases call with
    | HandleMemberWithdrawMoney player amount repair purse =>
      obtain ⟨-, happly⟩ := Option.ite_none_left_eq_some.mp happly
      obtain rfl := Option.some_inj.mp happly
      rcases handleMemberWithdrawMoney_effect day.guild player amount repair purse with
        heq | ⟨member, -, -, heq⟩
      · rw [heq]
        exact hs
      · rw [heq]
        exact hs.takeMoney rfl
    | SwapItems player tabId destTabId outcome =>
      obtain rfl := Option.some_inj.mp happly
      refine CountersSound.moved ?_
      rw [Guild.SwapItems]
      split_ifs
      · exact hs
      · exact hs.moveItems _ _ _
    | SwapItemsWithInventory player toChar tabId outcome =>
      obtain rfl := Option.some_inj.mp happly
      refine CountersSound.moved ?_
      rw [Guild.SwapItemsWithInventory]
      split_ifs
      · exact hs
      · exact hs.moveItems _ _ _
      · exact hs.moveItems _ _ _
    | HandleMemberDepositMoney amount =>
      obtain rfl := Option.some_inj.mp happly
      exact hs.of_sameCounters (.of_members rfl) fun _ ↦ rfl
    | ranks call =>
      obtain ⟨hguild, htaken, -⟩ := sameCounters_ranks happly
      exact hs.of_sameCounters hguild fun _ ↦ by rw [htaken]
  exact hafter.of_sameCounters (.of_members rfl) fun _ ↦ rfl

theorem countersSound_afterReset (guild : Guild) : CountersSound (.afterReset guild) := by
  intro guid member' hget
  have hget : guild.ResetTimes.m_members[guid]? = some member' := hget
  rw [Guild.ResetTimes, ExtTreeMap.getElem?_map, Option.map_eq_some_iff] at hget
  obtain ⟨member, -, rfl⟩ := hget
  have hzero : int32 0 = 0 := int32_of_mem (by decide) (by decide)
  refine ⟨hzero.symm, fun tabId ↦ ?_⟩
  show (0 : ℤ) ≤ 0 ∧ (0 : ℤ) < 2 ^ 31
  decide

/-- The withdrawals of a call are honoured just when the call is sound. -/
theorem asked_honoured_iff (hs : CountersSound day) {call : BankCall} {day' : BankDay}
    (hnext : day.next call = some day') :
    (∀ w ∈ day.asked call, w.Honoured) ↔ SoundCall day call :=
  forall₂_congr fun w hw ↦ w.honoured_iff_sound (asked_fits hs hnext hw)

/-- **The daily limits of the guild bank.**  In a run whose calls are all sound every withdrawal is
honoured; and in every run the withdrawals of the next call are honoured just when it is sound. -/
theorem withdrawals_honoured (guild : Guild) :
    (∀ day, (bankMachine guild).Reaches SoundCall day → ∀ w ∈ day.withdrawals, w.Honoured) ∧
      ∀ day call day', (bankMachine guild).Reachable day → day.next call = some day' →
        ((∀ w ∈ day.asked call, w.Honoured) ↔ SoundCall day call) := by
  have hcounters (day : BankDay) (h : (bankMachine guild).Reachable day) : CountersSound day :=
    h.invariant (countersSound_afterReset guild) fun _ _ _ hs _ hnext ↦ hs.next hnext
  refine ⟨fun day h ↦ ?_, fun day call day' h hnext ↦ asked_honoured_iff (hcounters day h) hnext⟩
  have hall : CountersSound day ∧ ∀ w ∈ day.withdrawals, w.Honoured := by
    refine h.invariant (P := fun day ↦ CountersSound day ∧ ∀ w ∈ day.withdrawals, w.Honoured)
      ⟨countersSound_afterReset guild, fun _ hw ↦ absurd hw List.not_mem_nil⟩ ?_
    rintro day call day' ⟨hs, hall⟩ hsound hnext
    refine ⟨hs.next hnext, fun w hw ↦ ?_⟩
    have hnext : day.next call = some day' := hnext
    obtain ⟨after, -, rfl⟩ := Option.map_eq_some_iff.mp hnext
    rcases List.mem_append.mp hw with hw | hw
    · exact hall w hw
    · exact (asked_honoured_iff hs hnext).mpr hsound w hw
  exact hall.2

/-! ## Two runs -/

instance (day : BankDay) (call : BankCall) : Decidable (SoundCall day call) :=
  inferInstanceAs (Decidable (∀ w ∈ day.asked call, _))

instance (w : Withdrawal) : Decidable w.Honoured := inferInstanceAs (Decidable (_ → _))

/-- A guild with 10000 copper and one tab in its bank, of which a member of the second rank may take some
money and one item a day. -/
def guildWithBank (rights money : UInt32) : Guild where
  m_leaderGuid := 1
  m_bankMoney := 10000
  m_ranks := [⟨0, "Guild Master", GR_RIGHT_ALL, GUILD_WITHDRAW_UNLIMITED, fun _ ↦ .guildMasterValues⟩,
      ⟨1, "Officer", rights, money, fun _ ↦ ⟨GUILD_BANK_RIGHT_VIEW_TAB, 1⟩⟩]
  m_members := (ExtTreeMap.empty.insert 1 ⟨1, "Alia", 0, fun _ ↦ 0⟩).insert 2 ⟨2, "Berta", 1, fun _ ↦ 0⟩
  purchasedTabs := 1

/-- A purse with a little money in it. -/
def littleMoney : Purse := ⟨300, by decide⟩

/-- An item is moved as it is. -/
def moveWhole : MoveOutcome := ⟨false, true, false, false⟩

/-- An officer takes what she may: 300 and then 700 copper, and an item.  For more she is refused. -/
def withinLimits : List BankCall := [.HandleMemberWithdrawMoney 2 300 false littleMoney,
    .HandleMemberWithdrawMoney 2 700 true littleMoney,
    .HandleMemberWithdrawMoney 2 1 false littleMoney, .SwapItemsWithInventory 2 true 0 moveWhole,
    .SwapItemsWithInventory 2 true 0 moveWhole]

theorem withdrawals_honoured_withinLimits : ∃ day,
    (bankMachine (guildWithBank (GR_RIGHT_WITHDRAW_REPAIR ||| GR_RIGHT_WITHDRAW_GOLD) 1000)).exec
      SoundCall (.afterReset (guildWithBank (GR_RIGHT_WITHDRAW_REPAIR ||| GR_RIGHT_WITHDRAW_GOLD)
        1000)) withinLimits = some day ∧
    day.withdrawals.map Withdrawal.granted = [true, true, false, true, false] ∧
    ∀ w ∈ day.withdrawals, w.Honoured := by
  refine (Machine.exists_exec _ _ _
    (fun day ↦ day.withdrawals.map Withdrawal.granted = [true, true, false, true, false]) (by decide +kernel)).imp
    fun day ⟨hday, hgranted, hreaches⟩ ↦ ⟨hday, hgranted, (withdrawals_honoured _).1 day hreaches⟩

/-- An officer who has only the right to repair takes gold. -/
theorem not_withdrawals_honoured :
    ¬ ∀ (guild : Guild) (day : BankDay), (bankMachine guild).Reachable day →
      ∀ w ∈ day.withdrawals, w.Honoured := by
  intro h
  obtain ⟨day, hday, hw⟩ := (bankMachine (guildWithBank GR_RIGHT_WITHDRAW_REPAIR 1000)).exists_reachable
    [.HandleMemberWithdrawMoney 2 300 false littleMoney]
    (fun day ↦ (day.withdrawals.map fun w ↦ decide w.Honoured) = [false]) (by decide +kernel)
  obtain ⟨w, hmem, hnot⟩ : ∃ w ∈ day.withdrawals, decide w.Honoured = false :=
    List.mem_map.mp (hw ▸ List.mem_cons_self)
  exact of_decide_eq_false hnot (h _ day hday w hmem)

end Gundrak
