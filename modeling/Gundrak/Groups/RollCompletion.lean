import Gundrak.Groups.RollTally

/-!
# Rolls that nobody is waiting for

A roll is decided when there are as many votes as players.  This is asked after a vote, so a roll that
has all its votes without one stays until the time is up.  There are two ways to it: all players who
take part pass automatically when the roll starts, and the last one who has not voted leaves the group.
`RemoveMember` does call `CountRollVote` for the latter case, but with the guid that it has just taken
out of the roll, and the call returns.

**`undecided_of_reaches`** speaks of the runs in which neither happens (`LeavesUndecided`): in all rolls
there is somebody who has not voted yet.  `undecided_next_iff` says that a call that is not of this kind
leaves a roll with all its votes.  `RemoveMember_eq` says what the loop through the rolls does: since it
decides no roll, it comes to every one of them once.
-/

open Std (ExtTreeMap)

namespace Gundrak.Looting

/-! ## What is claimed -/

/-- Whether a member takes part in the roll for an item. -/
def Roller.takesPart (member : Roller) (li : LootItem) : Bool :=
  member.hasSession && (member.IsAtGroupRewardDistance && member.allowed li)

/-- Somebody takes part in the roll for an item, and they do not all pass automatically. -/
def GroupMembers.SomeoneVotes (members : GroupMembers) (autoPass : Bool) (li : LootItem) : Prop :=
  (members.list.any fun member ↦ member.takesPart li) →
    members.list.any fun member ↦ member.takesPart li && !(autoPass && member.GetPassOnGroupLoot)

/-- Nobody is the last one who has not voted. -/
def Roll.NotLast (roll : Roll) (guid : ObjectGuid) : Prop := (∃ vote, roll.playerVote[guid]? = some vote) →
    ∃ other, other ≠ guid ∧ roll.playerVote[other]? = some .NOT_EMITED_YET

/-- The calls that leave nobody waiting: the members do not all pass automatically, nobody votes twice, and
nobody leaves as the last one who has not voted. -/
def LeavesUndecided (group : GroupRolls) : RollCall → Prop
  | .GroupLoot loot members m_lootThreshold _ =>
    ∀ li ∈ loot.items, li.freeforall = false → m_lootThreshold ≤ li.proto.Quality → members.SomeoneVotes true li
  | .NeedBeforeGreed loot members m_lootThreshold _ =>
    ∀ li ∈ loot.items, li.freeforall = false → m_lootThreshold ≤ li.proto.Quality → members.SomeoneVotes true li
  | .CountRollVote loots playerGUID Guid Choice =>
    CountsOnce group (.CountRollVote loots playerGUID Guid Choice)
  | .RemoveMember _ guid => ∀ roll ∈ group.RollId, roll.NotLast guid
  | .EndRoll _ => True

/-- One pass of the loop of `RemoveMember` is about one roll. -/
def Roll.remove (guid : ObjectGuid) (roll : Roll) : Roll :=
  match roll.playerVote[guid]? with
  | none => roll
  | some vote => roll.removeVoter guid vote

/-! ## One roll -/

namespace Roll

variable {roll : Roll} {guid : ObjectGuid}

theorem get_remove (roll : Roll) (guid a : ObjectGuid) :
    (roll.remove guid).playerVote[a]? = if guid = a then none else roll.playerVote[a]? := by
  unfold remove
  cases h : roll.playerVote[guid]? with
  | none =>
    split_ifs with ha
    · rw [← ha, h]
    · rfl
  | some vote =>
    simp [playerVote_removeVoter, TreeMap.get_erase]

/-- A roll in which everybody has voted is one in which nobody has yet to vote. -/
theorem not_allVoted_iff (hv : roll.Valid) :
    ¬ roll.AllVoted ↔ ∃ guid : ObjectGuid, roll.playerVote[guid]? = some .NOT_EMITED_YET := by
  constructor
  · intro h
    by_contra hnone
    refine h fun guid vote hvote ↦ ⟨?_, hv guid vote hvote⟩
    rintro rfl
    exact hnone ⟨guid, hvote⟩
  · rintro ⟨guid, hvote⟩ h
    exact (h guid _ hvote).1 rfl

theorem Tallied.le_of_allVoted (ht : roll.Tallied) (h : roll.AllVoted) : roll.totalPlayersRolling.toNat ≤
      roll.totalPass.toNat + roll.totalNeed.toNat + roll.totalGreed.toNat := by
  have hsum : roll.playerVote.size = roll.votes (· == .PASS) + roll.votes (· == .NEED) + roll.votes isGreed := by
    rw [votes, votes, votes, ← TreeMap.total_add, ← TreeMap.total_add, ← TreeMap.total_one]
    refine TreeMap.total_congr fun guid vote hvote ↦ ?_
    obtain ⟨hyet, hvalid⟩ := h guid vote hvote
    cases vote with
    | NOT_EMITED_YET => exact absurd rfl hyet
    | NOT_VALID => exact absurd rfl hvalid
    | PASS | NEED | GREED | DISENCHANT => rfl
  rw [ht.rolling, ht.need, ht.greed, ht.pass, hsum]

/-- After a member has left, somebody has yet to vote unless he was the last one of these. -/
theorem undecided_remove_iff (hv : roll.Valid) (hopen : ¬ roll.AllVoted) :
    ¬ (roll.remove guid).AllVoted ↔ roll.NotLast guid := by
  have hv' : (roll.remove guid).Valid := by
    intro a vote ha
    rw [get_remove, Option.ite_none_left_eq_some] at ha
    exact hv a vote ha.2
  rw [not_allVoted_iff hv']
  constructor
  · rintro ⟨a, ha⟩ -
    rw [get_remove, Option.ite_none_left_eq_some] at ha
    exact ⟨a, Ne.symm ha.1, ha.2⟩
  · intro h
    cases hvote : roll.playerVote[guid]? with
    | none =>
      obtain ⟨a, ha⟩ := (not_allVoted_iff hv).mp hopen
      refine ⟨a, ?_⟩
      rw [get_remove, if_neg, ha]
      rintro rfl
      simp [hvote] at ha
    | some vote =>
      obtain ⟨a, hne, ha⟩ := h ⟨vote, hvote⟩
      exact ⟨a, by rw [get_remove, if_neg (Ne.symm hne), ha]⟩

end Roll

/-! ## Rolls that start -/

namespace Roll

/-- The vote a member starts with. -/
def firstVote (autoPass : Bool) (member : Roller) : RollVote :=
  if autoPass && member.GetPassOnGroupLoot then .PASS else .NOT_EMITED_YET

theorem get_addRoller (autoPass : Bool) (li : LootItem) (roll : Roll) (member : Roller) (a : ObjectGuid) :
    (roll.addRoller autoPass li member).playerVote[a]? =
      if member.takesPart li = true ∧ member.guid = a then some (firstVote autoPass member)
      else roll.playerVote[a]? := by
  unfold addRoller Roller.takesPart firstVote
  cases member.hasSession with
  | false => simp
  | true =>
    cases member.IsAtGroupRewardDistance && member.allowed li with
    | false => simp
    | true =>
      cases autoPass && member.GetPassOnGroupLoot with
      | false => simp [TreeMap.get_insert]
      | true => simp [TreeMap.get_insert]

section

variable (autoPass : Bool) (members : GroupMembers) (itemGUID : ObjectGuid) (li : LootItem) (itemSlot : ℕ)

/-- The votes a roll starts with are those of the members who take part. -/
theorem get_start_iff (a : ObjectGuid) (vote : RollVote) :
    (start autoPass members itemGUID li itemSlot).playerVote[a]? = some vote ↔
      ∃ member ∈ members.list, member.takesPart li = true ∧ member.guid = a ∧ firstVote autoPass member = vote := by
  have hloop (list : List Roller) (hnodup : (list.map Roller.guid).Nodup) (roll : Roll)
      (hnew : ∀ member ∈ list, roll.playerVote[member.guid]? = none) :
      (list.foldl (addRoller autoPass li) roll).playerVote[a]? = some vote ↔ roll.playerVote[a]? = some vote ∨
          ∃ member ∈ list, member.takesPart li = true ∧ member.guid = a ∧ firstVote autoPass member = vote := by
    induction list generalizing roll with
    | nil => simp
    | cons member rest ih =>
      rw [List.map_cons, List.nodup_cons] at hnodup
      have hnew' : ∀ other ∈ rest, (roll.addRoller autoPass li member).playerVote[other.guid]? = none := by
        intro other hother
        have hne : other.guid ≠ member.guid := fun h ↦ hnodup.1 (h ▸ List.mem_map_of_mem hother)
        rw [addRoller_get hne]
        exact hnew other (List.mem_cons_of_mem _ hother)
      rw [List.foldl_cons, ih hnodup.2 _ hnew', get_addRoller]
      by_cases hpart : member.takesPart li = true ∧ member.guid = a
      · have hnone := hnew member List.mem_cons_self
        rw [hpart.2] at hnone
        rw [if_pos hpart, Option.some_inj, hnone]
        constructor
        · rintro (rfl | ⟨other, hother, h⟩)
          · exact .inr ⟨member, List.mem_cons_self, hpart.1, hpart.2, rfl⟩
          · exact .inr ⟨other, List.mem_cons_of_mem _ hother, h⟩
        · rintro (h | ⟨other, hother, h1, h2, h3⟩)
          · cases h
          · rcases List.mem_cons.mp hother with rfl | hother
            · exact .inl h3
            · exact .inr ⟨other, hother, h1, h2, h3⟩
      · rw [if_neg hpart]
        constructor
        · rintro (h | ⟨other, hother, h⟩)
          · exact .inl h
          · exact .inr ⟨other, List.mem_cons_of_mem _ hother, h⟩
        · rintro (h | ⟨other, hother, h1, h2, h3⟩)
          · exact .inl h
          · rcases List.mem_cons.mp hother with rfl | hother
            · exact absurd ⟨h1, h2⟩ hpart
            · exact .inr ⟨other, hother, h1, h2, h3⟩
  rw [start, hloop members.list members.nodup _ (fun member _ ↦ by simp [new])]
  simp [new]

/-- A roll starts with somebody who has yet to vote, unless all who take part pass. -/
theorem undecided_start_iff : (0 < (start autoPass members itemGUID li itemSlot).totalPlayersRolling →
      ¬ (start autoPass members itemGUID li itemSlot).AllVoted) ↔ members.SomeoneVotes autoPass li := by
  obtain ⟨ht, hv⟩ := tallied_start autoPass members itemGUID li itemSlot
  have hget := get_start_iff autoPass members itemGUID li itemSlot
  have hpos : 0 < (start autoPass members itemGUID li itemSlot).totalPlayersRolling ↔
      members.list.any (fun member ↦ member.takesPart li) = true := by
    rw [UInt8.lt_iff_toNat_lt, ht.rolling, List.any_eq_true]
    constructor
    · intro h
      by_contra hnobody
      have hempty : (start autoPass members itemGUID li itemSlot).playerVote = ∅ := by
        rw [ExtTreeMap.eq_empty_iff_forall_not_mem]
        intro a ha
        obtain ⟨vote, hvote⟩ := (TreeMap.mem_iff _ _).mp ha
        obtain ⟨member, hmember, hpart, -⟩ := (hget a vote).mp hvote
        exact hnobody ⟨member, hmember, hpart⟩
      simp [hempty] at h
    · rintro ⟨member, hmember, hpart⟩
      have hvote := (hget member.guid _).mpr ⟨member, hmember, hpart, rfl, rfl⟩
      rcases Nat.eq_zero_or_pos (start autoPass members itemGUID li itemSlot).playerVote.size with h | h
      · simp [TreeMap.get_of_size_eq_zero h] at hvote
      · exact h
  have hyet : (¬ (start autoPass members itemGUID li itemSlot).AllVoted) ↔ (members.list.any fun member ↦
        member.takesPart li && !(autoPass && member.GetPassOnGroupLoot)) = true := by
    rw [not_allVoted_iff hv, List.any_eq_true]
    constructor
    · rintro ⟨a, ha⟩
      obtain ⟨member, hmember, hpart, -, hfirst⟩ := (hget a _).mp ha
      refine ⟨member, hmember, ?_⟩
      unfold firstVote at hfirst
      split_ifs at hfirst with hpass
      simp [hpart, hpass]
    · rintro ⟨member, hmember, h⟩
      obtain ⟨hpart, hpass⟩ := (Bool.and_eq_true _ _).mp h
      refine ⟨member.guid, (hget _ _).mpr ⟨member, hmember, hpart, rfl, ?_⟩⟩
      refine if_neg fun h ↦ ?_
      simp [h] at hpass
  rw [GroupMembers.SomeoneVotes, hpos, hyet]

end

end Roll

/-! ## The rolls of a group -/

namespace GroupRolls

variable {members : GroupMembers} {itemGUIDs : ℕ → ObjectGuid} {P : Roll → Prop} {Q : LootItem → Prop}

theorem forall_rollFor_iff {autoPass : Bool} {li : LootItem} {itemSlot drawn : ℕ} {RollId : List Roll}
    (hP : (0 < (Roll.start autoPass members (itemGUIDs drawn) li itemSlot).totalPlayersRolling →
      P (Roll.start autoPass members (itemGUIDs drawn) li itemSlot)) ↔ Q li) :
    (∀ roll ∈ rollFor autoPass members itemGUIDs li itemSlot drawn RollId, P roll) ↔
      (∀ roll ∈ RollId, P roll) ∧ Q li := by
  rw [← hP]
  unfold rollFor
  dsimp only
  split_ifs with hpos
  · rw [List.forall_mem_append, List.forall_mem_singleton]
    exact and_congr_right' ⟨fun h _ ↦ h, fun h ↦ h hpos⟩
  · exact ⟨fun h ↦ ⟨h, fun h' ↦ absurd h' hpos⟩, fun h ↦ h.1⟩

theorem forall_rollItems_iff (m_lootThreshold : ℕ) (items : List LootItem) (itemSlot drawn : ℕ) (RollId : List Roll)
    (hP : ∀ (li : LootItem) (itemSlot drawn : ℕ),
      (0 < (Roll.start true members (itemGUIDs drawn) li itemSlot).totalPlayersRolling →
        P (Roll.start true members (itemGUIDs drawn) li itemSlot)) ↔ Q li) :
    (∀ roll ∈ (rollItems members m_lootThreshold itemGUIDs items itemSlot drawn RollId).2, P roll) ↔
      (∀ roll ∈ RollId, P roll) ∧ ∀ li ∈ items, li.freeforall = false → m_lootThreshold ≤ li.proto.Quality → Q li := by
  induction items generalizing itemSlot drawn RollId with
  | nil => simp [rollItems]
  | cons li rest ih =>
    rw [rollItems, List.forall_mem_cons]
    split_ifs with hrolled
    · rw [Bool.and_eq_true, decide_eq_true_eq, Bool.not_eq_true'] at hrolled
      rw [ih, forall_rollFor_iff (hP li itemSlot drawn), and_assoc]
      exact and_congr_right' (and_congr_left' ⟨fun h _ _ ↦ h, fun h ↦ h hrolled.1 hrolled.2⟩)
    · rw [Bool.and_eq_true, decide_eq_true_eq, Bool.not_eq_true'] at hrolled
      rw [ih]
      refine and_congr_right' ⟨fun h ↦ ⟨fun hffa hle ↦ absurd ⟨hffa, hle⟩ hrolled, h⟩, fun h ↦ h.2⟩

theorem forall_rollQuestItems_iff (items : List LootItem) (itemSlot drawn : ℕ) (RollId : List Roll)
    (hP : ∀ (li : LootItem) (itemSlot drawn : ℕ),
      (0 < (Roll.start false members (itemGUIDs drawn) li itemSlot).totalPlayersRolling →
        P (Roll.start false members (itemGUIDs drawn) li itemSlot)) ↔ True) :
    (∀ roll ∈ rollQuestItems members itemGUIDs items itemSlot drawn RollId, P roll) ↔ ∀ roll ∈ RollId, P roll := by
  induction items generalizing itemSlot drawn RollId with
  | nil => rfl
  | cons li rest ih =>
    rw [rollQuestItems]
    split_ifs
    · rw [ih, forall_rollFor_iff (Q := fun _ ↦ True) (hP li itemSlot drawn), and_true]
    · exact ih _ _ _

/-- After rolls have been started, somebody has yet to vote in all of them exactly if this was so before and
not all who take part in a new one pass. -/
theorem undecided_GroupLoot_iff (group : GroupRolls) (loot : Loot) (members : GroupMembers)
    (m_lootThreshold : ℕ) (itemGUIDs : ℕ → ObjectGuid) :
    (∀ roll ∈ (group.GroupLoot loot members m_lootThreshold itemGUIDs).RollId, ¬ roll.AllVoted) ↔
      (∀ roll ∈ group.RollId, ¬ roll.AllVoted) ∧
        ∀ li ∈ loot.items, li.freeforall = false → m_lootThreshold ≤ li.proto.Quality →
          members.SomeoneVotes true li := by
  show (∀ roll ∈ rollQuestItems members itemGUIDs loot.quest_items loot.items.length
    (rollItems members m_lootThreshold itemGUIDs loot.items 0 0 group.RollId).1
    (rollItems members m_lootThreshold itemGUIDs loot.items 0 0 group.RollId).2, ¬ roll.AllVoted) ↔ _
  rw [forall_rollQuestItems_iff]
  · exact forall_rollItems_iff m_lootThreshold loot.items 0 0 group.RollId fun li itemSlot drawn ↦
      Roll.undecided_start_iff true members (itemGUIDs drawn) li itemSlot
  · intro li itemSlot drawn
    rw [Roll.undecided_start_iff false members (itemGUIDs drawn) li itemSlot]
    simp [GroupMembers.SomeoneVotes]

variable {group : GroupRolls} {loots : ObjectGuid → LootState} {playerGUID guid Guid : ObjectGuid}
  {Choice : UInt8}

/-- A vote leaves a roll only when somebody has yet to vote in it. -/
theorem undecided_countRollVote (hs : RollsSound group) (hopen : ∀ roll ∈ group.RollId, ¬ roll.AllVoted)
    (honce : CountsOnce group (.CountRollVote loots playerGUID Guid Choice)) :
    ∀ roll ∈ (group.CountRollVote loots playerGUID Guid Choice).RollId, ¬ roll.AllVoted := by
  rcases countRollVote_effect group loots playerGUID Guid Choice with
    heq | ⟨rollI, roll, vote, hroll, hvote, hbefore, heffect⟩
  · rwa [heq]
  rcases heffect with ⟨hfew, heq⟩ | ⟨-, heq⟩
  · have hmem := hs.valid roll (List.mem_of_getElem? hroll)
    have hfirst : (rollType Choice).isSome → roll.playerVote[playerGUID]? = some .NOT_EMITED_YET :=
      fun hChoice ↦ by rw [hvote, honce hChoice vote hbefore]
    have htallied := (Roll.tallied_vote hmem.1 hmem.2 hfirst).1
    rw [heq]
    intro other hother
    rcases List.mem_or_eq_of_mem_set hother with hother | rfl
    · exact hopen other hother
    · exact fun hall ↦ absurd (htallied.le_of_allVoted hall) (not_le.mpr hfew)
  · rw [heq]
    exact fun other hother ↦ hopen other (List.mem_of_mem_eraseIdx hother)

/-! ### Leaving -/

theorem itemGUID_removeVoter (roll : Roll) (guid : ObjectGuid) (vote : RollVote) :
    (roll.removeVoter guid vote).itemGUID = roll.itemGUID := by
  unfold Roll.removeVoter
  split_ifs <;> rfl

/-- `RemoveMember` asks for a vote of a member who has been taken out of the roll and all rolls before it.
The roll that `GetRoll` finds is one of these, so nothing is counted. -/
theorem countRollVote_of_gone {it : ℕ} {roll : Roll} (hit : group.RollId[it]? = some roll)
    (hgone : ∀ (j : ℕ) (other : Roll), j ≤ it → group.RollId[j]? = some other → other.playerVote[guid]? = none) :
    group.CountRollVote loots guid roll.itemGUID Choice = group := by
  unfold CountRollVote
  cases hfound : group.GetRoll loots roll.itemGUID with
  | none => rfl
  | some j =>
    obtain ⟨hlt, hj, hmin⟩ := List.findIdx?_eq_some_iff_getElem.mp hfound
    obtain ⟨hguid, hvalid⟩ := (Bool.and_eq_true _ _).mp hj
    rw [beq_iff_eq.mp hguid] at hvalid
    have hle : j ≤ it := by
      by_contra hlater
      obtain ⟨hlt', rfl⟩ := List.getElem?_eq_some_iff.mp hit
      refine hmin it (not_le.mp hlater) ?_
      simp [hvalid]
    have hnone := hgone j group.RollId[j] hle (List.getElem?_eq_getElem hlt)
    dsimp only
    rw [List.getElem?_eq_getElem hlt]
    refine if_pos ?_
    rw [ExtTreeMap.contains_eq_isSome_getElem?, hnone]
    rfl

theorem removeFromRoll_eq {it : ℕ} (hgone : ∀ (j : ℕ) (roll : Roll), j < it → group.RollId[j]? = some roll →
      roll.playerVote[guid]? = none) :
    removeFromRoll loots guid group it = { group with RollId := group.RollId.modify it (Roll.remove guid) } := by
  unfold removeFromRoll
  cases hroll : group.RollId[it]? with
  | none => rw [List.modify_eq_self (List.getElem?_eq_none_iff.mp hroll)]
  | some roll =>
    have hset : group.RollId.modify it (Roll.remove guid) = group.RollId.set it (roll.remove guid) := by
      refine List.ext_getElem? fun j ↦ ?_
      rw [List.getElem?_modify, List.getElem?_set]
      by_cases hj : it = j
      · subst hj
        obtain ⟨hlt, hget⟩ := List.getElem?_eq_some_iff.mp hroll
        simp [hlt, hget]
      · simp [hj]
    rw [hset]
    dsimp only
    cases hvote : roll.playerVote[guid]? with
    | none =>
      have hsame : roll.remove guid = roll := by
        simp [Roll.remove, hvote]
      obtain ⟨hlt, hget⟩ := List.getElem?_eq_some_iff.mp hroll
      rw [hsame, ← hget, List.set_getElem_self]
    | some vote =>
      have hremove : roll.remove guid = roll.removeVoter guid vote := by
        simp [Roll.remove, hvote]
      have hlt := (List.getElem?_eq_some_iff.mp hroll).1
      rw [hremove, ← itemGUID_removeVoter roll guid vote]
      refine countRollVote_of_gone (List.getElem?_set_self hlt) fun j other hle hother ↦ ?_
      rw [List.getElem?_set] at hother
      split_ifs at hother with hj
      · simp [← Option.some_inj.mp hother, Roll.playerVote_removeVoter]
      · exact hgone j other (by omega) hother

/-- The loop of `RemoveMember` comes to every roll once: it takes the member out of all of them, and leaves
them in their places. -/
theorem RemoveMember_eq (group : GroupRolls) (loots : ObjectGuid → LootState) (guid : ObjectGuid) :
    group.RemoveMember loots guid = { group with RollId := group.RollId.map (Roll.remove guid) } := by
  have hloop (k : ℕ) : ∃ RollId : List Roll,
      (List.range k).foldl (removeFromRoll loots guid) group = { group with RollId := RollId } ∧
        ∀ j, RollId[j]? = (group.RollId[j]?).map fun roll ↦ if j < k then roll.remove guid else roll := by
    induction k with
    | zero => exact ⟨group.RollId, rfl, fun j ↦ by simp⟩
    | succ k ih =>
      obtain ⟨RollId, heq, hget⟩ := ih
      rw [List.range_succ, List.foldl_append, heq, List.foldl_cons, List.foldl_nil, removeFromRoll_eq]
      · refine ⟨_, rfl, fun j ↦ ?_⟩
        show (RollId.modify k (Roll.remove guid))[j]? = _
        rw [List.getElem?_modify, hget j, Option.map_eq_map, Option.map_map]
        refine Option.map_congr fun roll _ ↦ ?_
        rcases lt_trichotomy j k with hlt | rfl | hgt
        · simp [hlt, Nat.lt_succ_of_lt hlt, hlt.ne']
        · simp
        · simp [not_lt.mpr hgt.le, hgt.ne, not_lt.mpr (Nat.succ_le_of_lt hgt)]
      · intro j roll hlt hroll
        have hroll : RollId[j]? = some roll := hroll
        rw [hget j, Option.map_eq_some_iff] at hroll
        obtain ⟨before, -, rfl⟩ := hroll
        simp [hlt, Roll.get_remove]
  obtain ⟨RollId, heq, hget⟩ := hloop group.RollId.length
  rw [RemoveMember, heq]
  have hmap : RollId = group.RollId.map (Roll.remove guid) := by
    refine List.ext_getElem? fun j ↦ ?_
    rw [hget j, List.getElem?_map]
    refine Option.map_congr fun roll hroll ↦ ?_
    exact if_pos (List.getElem?_eq_some_iff.mp hroll).1
  rw [hmap]

end GroupRolls

/-- **A call and the rolls nobody is waiting for.**  In a group whose counters are right and in whose rolls
somebody has yet to vote, a call that is no second vote keeps it so exactly if it satisfies
`LeavesUndecided`. -/
theorem undecided_next_iff {group group' : GroupRolls} {call : RollCall} (hs : RollsSound group)
    (hopen : ∀ roll ∈ group.RollId, ¬ roll.AllVoted) (honce : CountsOnce group call)
    (hnext : rollMachine.next group call = some group') :
    (∀ roll ∈ group'.RollId, ¬ roll.AllVoted) ↔ LeavesUndecided group call := by
  cases call with
  | GroupLoot loot members m_lootThreshold itemGUIDs =>
    rw [← Option.some_inj.mp hnext]
    exact (group.undecided_GroupLoot_iff loot members m_lootThreshold itemGUIDs).trans
      (and_iff_right hopen)
  | NeedBeforeGreed loot members m_lootThreshold itemGUIDs =>
    rw [← Option.some_inj.mp hnext]
    exact (group.undecided_GroupLoot_iff loot members m_lootThreshold itemGUIDs).trans
      (and_iff_right hopen)
  | CountRollVote loots playerGUID Guid Choice =>
    rw [← Option.some_inj.mp hnext]
    exact iff_of_true (GroupRolls.undecided_countRollVote hs hopen honce) honce
  | RemoveMember loots guid =>
    rw [← Option.some_inj.mp hnext, GroupRolls.RemoveMember_eq, List.forall_mem_map]
    exact forall₂_congr fun roll hroll ↦
      Roll.undecided_remove_iff (hs.valid roll hroll).2 (hopen roll hroll)
  | EndRoll ended =>
    rw [← Option.some_inj.mp hnext]
    exact iff_of_true (fun roll hroll ↦ hopen roll (List.mem_of_mem_filter hroll)) trivial

/-- **Nobody waits for a roll that has all its votes.**  In every run whose calls all satisfy
`LeavesUndecided`, somebody has yet to vote in every roll, and the loop of `RemoveMember` takes a member
out of every roll once. -/
theorem undecided_of_reaches {group : GroupRolls} (h : rollMachine.Reaches LeavesUndecided group) :
    (∀ roll ∈ group.RollId, ¬ roll.AllVoted) ∧ ∀ (loots : ObjectGuid → LootState) (guid : ObjectGuid),
        group.RemoveMember loots guid =
          { group with RollId := group.RollId.map (Roll.remove guid) } := by
  suffices hboth : RollsSound group ∧ ∀ roll ∈ group.RollId, ¬ roll.AllVoted from
    ⟨hboth.2, group.RemoveMember_eq⟩
  refine h.invariant (P := fun group ↦ RollsSound group ∧ ∀ roll ∈ group.RollId, ¬ roll.AllVoted)
    ⟨⟨fun _ hroll ↦ absurd hroll List.not_mem_nil, fun _ hroll ↦ absurd hroll List.not_mem_nil⟩,
      fun _ hroll ↦ absurd hroll List.not_mem_nil⟩ ?_
  rintro group call group' ⟨hs, hopen⟩ hleaves hnext
  have honce : CountsOnce group call := by
    cases call with
    | CountRollVote => exact hleaves
    | _ => exact trivial
  exact ⟨hs.next honce hnext, (undecided_next_iff hs hopen honce hnext).mpr hleaves⟩

/-! ## Two runs -/

instance (roll : Roll) (guid : ObjectGuid) : Decidable (roll.NotLast guid) := by
  refine decidable_of_iff (roll.playerVote[guid]?.isSome →
    roll.playerVote.toList.any fun entry ↦ entry.1 != guid && entry.2 == .NOT_EMITED_YET) ?_
  rw [Roll.NotLast, Option.isSome_iff_exists, List.any_eq_true]
  refine imp_congr_right fun _ ↦ ⟨?_, ?_⟩
  · rintro ⟨⟨other, vote⟩, hmem, h⟩
    obtain ⟨hne, hvote⟩ := (Bool.and_eq_true _ _).mp h
    refine ⟨other, by simpa using hne, ?_⟩
    rw [← beq_iff_eq.mp hvote]
    exact ExtTreeMap.mem_toList_iff_getElem?_eq_some.mp hmem
  · rintro ⟨other, hne, hvote⟩
    exact ⟨(other, .NOT_EMITED_YET), ExtTreeMap.mem_toList_iff_getElem?_eq_some.mpr hvote, by simp [hne]⟩

instance (members : GroupMembers) (autoPass : Bool) (li : LootItem) :
    Decidable (members.SomeoneVotes autoPass li) := inferInstanceAs (Decidable (_ → _))

instance decidableLeavesUndecided (group : GroupRolls) : (call : RollCall) → Decidable (LeavesUndecided group call)
  | .GroupLoot loot members m_lootThreshold _ => inferInstanceAs (Decidable (∀ li ∈ loot.items, _))
  | .NeedBeforeGreed loot members m_lootThreshold _ => inferInstanceAs (Decidable (∀ li ∈ loot.items, _))
  | .CountRollVote loots playerGUID Guid Choice =>
    inferInstanceAs (Decidable (CountsOnce group (.CountRollVote loots playerGUID Guid Choice)))
  | .RemoveMember _ guid => inferInstanceAs (Decidable (∀ roll ∈ group.RollId, _))
  | .EndRoll _ => inferInstanceAs (Decidable True)

/-- The first of three members votes, and the third, who has passed automatically, leaves; the second has yet
to vote. -/
theorem undecided_rolling : ∃ group, rollMachine.exec LeavesUndecided rollMachine.start
      (rolling [.CountRollVote lying 1 100 1, .RemoveMember lying 3]) = some group ∧
    group.RollId.length = 1 ∧ ∀ roll ∈ group.RollId, ¬ roll.AllVoted := by
  refine (Machine.exists_exec _ _ _ (fun group ↦ group.RollId.length = 1) (by decide +kernel)).imp
    fun group ⟨hgroup, hlength, hreaches⟩ ↦ ⟨hgroup, hlength, (undecided_of_reaches hreaches).1⟩

/-- When the last member who has not voted leaves, the roll goes on. -/
theorem not_undecided_of_leaving :
    ¬ ∀ group, rollMachine.Reaches CountsOnce group → ∀ roll ∈ group.RollId, ¬ roll.AllVoted := by
  intro h
  obtain ⟨group, hgroup, hrolls⟩ := rollMachine.exists_reaches CountsOnce (rolling [.CountRollVote lying 1 100 1,
    .RemoveMember lying 2])
    (fun group ↦ (group.RollId.map fun roll ↦ roll.playerVote.toList) = [[(1, .NEED), (3, .PASS)]]) (by decide +kernel)
  obtain ⟨roll, hroll, hvotes⟩ : ∃ roll ∈ group.RollId,
      roll.playerVote.toList = [(1, .NEED), (3, .PASS)] :=
    List.mem_map.mp (hrolls ▸ List.mem_cons_self)
  refine h group hgroup roll hroll ?_
  have hall := TreeMap.forall_get_iff roll.playerVote fun _ vote ↦
    vote ≠ .NOT_EMITED_YET ∧ vote ≠ .NOT_VALID
  rw [hvotes] at hall
  exact hall.mpr (by decide)

end Gundrak.Looting
