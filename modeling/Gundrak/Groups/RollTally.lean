import Gundrak.Groups.GroupLoot
import Gundrak.Util.MapTotal

/-!
# The tally of a roll

`Tallied` says that the counters of a roll are what they are called: the number of players who take
part, and the numbers of those who have voted need, greed or disenchant, and pass.  It holds when a roll
starts, and leaving the group keeps it.  A vote keeps it when the player has not voted yet: a second
vote is counted again while the first one stays in its counter.

**`rollsTallied_of_reaches`** therefore speaks of the runs in which nobody votes twice (`CountsOnce`).  In these
the rolls are tallied, and a roll is only decided by votes after everybody who takes part has voted.
-/

open Std (ExtTreeMap)

namespace Gundrak.Looting

/-! ## What is claimed -/

namespace Roll

variable (roll : Roll)

/-- The number of players whose vote satisfies `p`. -/
def votes (p : RollVote → Bool) : ℕ := TreeMap.total roll.playerVote fun _ vote ↦ if p vote then 1 else 0

/-- Votes that `totalGreed` counts. -/
def isGreed (vote : RollVote) : Bool := vote == .GREED || vote == .DISENCHANT

/-- The counters of a roll are the numbers of the votes. -/
structure Tallied (roll : Roll) : Prop where
  rolling : roll.totalPlayersRolling.toNat = roll.playerVote.size
  need : roll.totalNeed.toNat = roll.votes (· == .NEED)
  greed : roll.totalGreed.toNat = roll.votes isGreed
  pass : roll.totalPass.toNat = roll.votes (· == .PASS)

/-- Everybody who takes part has voted. -/
def AllVoted (roll : Roll) : Prop := ∀ (guid : ObjectGuid) (vote : RollVote), roll.playerVote[guid]? = some vote →
    vote ≠ .NOT_EMITED_YET ∧ vote ≠ .NOT_VALID

end Roll

/-- What a player has voted so far in the roll that `CountRollVote` counts his vote for. -/
def GroupRolls.voteBefore (group : GroupRolls) (loots : ObjectGuid → LootState)
    (playerGUID Guid : ObjectGuid) : Option RollVote :=
  (group.GetRoll loots Guid).bind fun rollI ↦ group.RollId[rollI]?.bind fun roll ↦
    if (loots roll.itemGUID).itemsEmpty then none else roll.playerVote[playerGUID]?

/-- The votes that are counted once: those of players who have not voted yet. -/
def CountsOnce (group : GroupRolls) : RollCall → Prop
  | .CountRollVote loots playerGUID Guid Choice => (rollType Choice).isSome →
    ∀ vote ∈ group.voteBefore loots playerGUID Guid, vote = .NOT_EMITED_YET
  | _ => True

/-- The counters of all rolls are right, and the rolls that votes have decided were decided after the
last vote. -/
structure RollsTallied (group : GroupRolls) : Prop where
  tallied : ∀ roll ∈ group.RollId, roll.Tallied
  decided : ∀ roll ∈ group.decided, roll.Tallied ∧ roll.AllVoted

/-! ## One roll -/

namespace Roll

variable {roll : Roll} {p : RollVote → Bool} {guid : ObjectGuid} {vote vote' : RollVote}

theorem votes_le_size (roll : Roll) (p : RollVote → Bool) : roll.votes p ≤ roll.playerVote.size := by
  rw [← TreeMap.total_one]
  refine TreeMap.total_le_total fun _ vote ↦ ?_
  split_ifs <;> omega

theorem one_le_votes (h : roll.playerVote[guid]? = some vote) (hp : p vote = true) : 1 ≤ roll.votes p := by
  have hle := TreeMap.le_total (f := fun _ vote ↦ if p vote then 1 else 0) h
  rwa [if_pos hp] at hle

/-- A vote that is not valid does not occur. -/
def Valid (roll : Roll) : Prop :=
  ∀ (guid : ObjectGuid) (vote : RollVote), roll.playerVote[guid]? = some vote → vote ≠ .NOT_VALID

theorem valid_insert (hv : roll.Valid) (hvote : vote ≠ .NOT_VALID) {roll' : Roll}
    (h : roll'.playerVote = roll.playerVote.insert guid vote) : roll'.Valid := by
  intro a w hw
  rw [h, TreeMap.get_insert] at hw
  split_ifs at hw
  · exact Option.some_inj.mp hw ▸ hvote
  · exact hv a w hw

section votes

variable {roll' : Roll}

section

variable (h : roll.playerVote[guid]? = none) (hroll : roll'.playerVote = roll.playerVote.insert guid vote)
include h hroll

theorem votes_join (p : RollVote → Bool) : roll'.votes p = roll.votes p + if p vote then 1 else 0 := by
  rw [votes, hroll, TreeMap.total_insert h, votes]

theorem size_join : roll'.playerVote.size = roll.playerVote.size + 1 := by
  rw [hroll, ← TreeMap.total_one, TreeMap.total_insert h, TreeMap.total_one]

end

section

variable (h : roll.playerVote[guid]? = some vote)
include h

/-- A player who changes his vote is counted with the new one instead of the old one. -/
theorem votes_change (hroll : roll'.playerVote = roll.playerVote.insert guid vote') (p : RollVote → Bool) :
    roll'.votes p + (if p vote then 1 else 0) = roll.votes p + if p vote' then 1 else 0 := by
  rw [votes, hroll, votes]
  exact TreeMap.total_replace h vote'

theorem size_change (hroll : roll'.playerVote = roll.playerVote.insert guid vote') :
    roll'.playerVote.size = roll.playerVote.size := by
  have htotal := TreeMap.total_replace (f := fun _ _ ↦ 1) h vote'
  rw [TreeMap.total_one, TreeMap.total_one] at htotal
  rw [hroll]
  omega

theorem votes_leave (hroll : roll'.playerVote = roll.playerVote.erase guid) (p : RollVote → Bool) :
    roll'.votes p + (if p vote then 1 else 0) = roll.votes p := by
  rw [votes, hroll, votes]
  exact TreeMap.total_erase h

theorem size_leave (hroll : roll'.playerVote = roll.playerVote.erase guid) :
    roll'.playerVote.size + 1 = roll.playerVote.size := by
  have htotal := TreeMap.total_erase (f := fun _ _ ↦ 1) h
  simpa [TreeMap.total_one, ← hroll] using htotal

end

end votes

theorem toNat_add_one {x : UInt8} (h : x.toNat < 255) : (x + 1).toNat = x.toNat + 1 := by
  rw [UInt8.toNat_add, UInt8.toNat_one]
  omega

theorem toNat_sub_one {x : UInt8} (h : 1 ≤ x.toNat) : (x - 1).toNat + 1 = x.toNat := by
  have hlt := x.toNat_lt
  rw [UInt8.toNat_sub, UInt8.toNat_one]
  omega

theorem Tallied.join {roll' : Roll} (ht : Tallied roll) (hnew : roll.playerVote[guid]? = none)
    (hroom : roll.playerVote.size < 255)
    (hroll : roll'.playerVote = roll.playerVote.insert guid vote)
    (hrolling : roll'.totalPlayersRolling = roll.totalPlayersRolling + 1)
    (hneed : roll'.totalNeed = roll.totalNeed) (hgreed : roll'.totalGreed = roll.totalGreed)
    (hpass : roll'.totalPass = if vote = .PASS then roll.totalPass + 1 else roll.totalPass)
    (hvote : vote = .PASS ∨ vote = .NOT_EMITED_YET) : Tallied roll' := by
  have hjoin := votes_join hnew hroll
  have hlt : roll.totalPass.toNat < 255 := by
    have hle := votes_le_size roll (· == .PASS)
    rw [ht.pass]
    omega
  refine ⟨?_, ?_, ?_, ?_⟩
  · rw [hrolling, size_join hnew hroll, toNat_add_one (ht.rolling ▸ hroom), ht.rolling]
  · rcases hvote with rfl | rfl <;> rw [hneed, hjoin] <;> exact ht.need
  · rcases hvote with rfl | rfl <;> rw [hgreed, hjoin] <;> exact ht.greed
  · rcases hvote with rfl | rfl <;> simp [hpass, hjoin, toNat_add_one hlt, ht.pass]

theorem Tallied.addRoller (ht : Tallied roll) (hv : roll.Valid) (autoPass : Bool) (li : LootItem)
    {member : Roller} (hnew : roll.playerVote[member.guid]? = none)
    (hroom : roll.playerVote.size < 255) :
    Tallied (roll.addRoller autoPass li member) ∧ (roll.addRoller autoPass li member).Valid := by
  rw [Roll.addRoller]
  split_ifs
  · exact ⟨ht, hv⟩
  · exact ⟨ht.join hnew hroom rfl rfl rfl rfl rfl (.inl rfl), valid_insert hv (by decide) rfl⟩
  · exact ⟨ht.join hnew hroom rfl rfl rfl rfl rfl (.inr rfl), valid_insert hv (by decide) rfl⟩
  · exact ⟨ht, hv⟩

theorem addRoller_get {autoPass : Bool} {li : LootItem} {member : Roller} {a : ObjectGuid} (ha : a ≠ member.guid) :
    (roll.addRoller autoPass li member).playerVote[a]? = roll.playerVote[a]? := by
  rw [Roll.addRoller]
  split_ifs
  · rfl
  · exact (TreeMap.get_insert _ _ _ _).trans (if_neg (Ne.symm ha))
  · exact (TreeMap.get_insert _ _ _ _).trans (if_neg (Ne.symm ha))
  · rfl

theorem size_addRoller_le {autoPass : Bool} {li : LootItem} {member : Roller} :
    (roll.addRoller autoPass li member).playerVote.size ≤ roll.playerVote.size + 1 := by
  rw [Roll.addRoller]
  split_ifs
  · exact Nat.le_succ _
  · exact ExtTreeMap.size_insert_le
  · exact ExtTreeMap.size_insert_le
  · exact Nat.le_succ _

theorem tallied_start (autoPass : Bool) (members : GroupMembers) (itemGUID : ObjectGuid)
    (li : LootItem) (itemSlot : ℕ) :
    Tallied (start autoPass members itemGUID li itemSlot) ∧ (start autoPass members itemGUID li itemSlot).Valid := by
  have hloop (list : List Roller) (roll : Roll) (ht : Tallied roll) (hv : roll.Valid)
      (hnodup : (list.map Roller.guid).Nodup)
      (hnew : ∀ member ∈ list, roll.playerVote[member.guid]? = none)
      (hroom : roll.playerVote.size + list.length ≤ 255) :
      Tallied (list.foldl (Roll.addRoller autoPass li) roll) ∧
        (list.foldl (Roll.addRoller autoPass li) roll).Valid := by
    induction list generalizing roll with
    | nil => exact ⟨ht, hv⟩
    | cons member rest ih =>
      rw [List.map_cons, List.nodup_cons] at hnodup
      rw [List.length_cons] at hroom
      obtain ⟨ht', hv'⟩ := ht.addRoller hv autoPass li (hnew member List.mem_cons_self) (by omega)
      refine ih _ ht' hv' hnodup.2 (fun other hother ↦ ?_) ?_
      · have hne : other.guid ≠ member.guid := fun h ↦
          hnodup.1 (h ▸ List.mem_map_of_mem hother)
        rw [addRoller_get hne]
        exact hnew other (List.mem_cons_of_mem _ hother)
      · have hle : (roll.addRoller autoPass li member).playerVote.size ≤ _ := size_addRoller_le
        omega
  have hle := members.length_le
  rw [MAXRAIDSIZE] at hle
  have hempty : (∅ : ExtTreeMap ObjectGuid RollVote).size = 0 := ExtTreeMap.size_empty
  refine hloop members.list _ ⟨?_, ?_, ?_, ?_⟩ ?_ members.nodup (fun _ _ ↦ ?_) ?_
  · exact hempty.symm
  · rfl
  · rfl
  · rfl
  · intro guid vote h
    simp [new] at h
  · simp [new]
  · show (∅ : ExtTreeMap ObjectGuid RollVote).size + members.list.length ≤ 255
    omega

/-- The counter of a kind of votes, after a player has voted for the first time. -/
theorem toNat_first {roll' : Roll} {x : UInt8} (hsize : roll.playerVote.size < 256)
    (h : roll.playerVote[guid]? = some .NOT_EMITED_YET)
    (hroll : roll'.playerVote = roll.playerVote.insert guid vote) {p : RollVote → Bool}
    (hp : p .NOT_EMITED_YET = false) (hx : x.toNat = roll.votes p) :
    (if p vote then x + 1 else x).toNat = roll'.votes p := by
  have hchange := votes_change h hroll p
  have hle := votes_le_size roll' p
  rw [size_change h hroll] at hle
  rw [if_neg (by simp [hp]), add_zero] at hchange
  by_cases hvote : p vote = true
  · rw [if_pos hvote] at hchange ⊢
    rw [toNat_add_one (by omega), hx, hchange]
  · simp [hvote, hx, hchange]

theorem Tallied.first {roll' : Roll} (ht : Tallied roll) (h : roll.playerVote[guid]? = some .NOT_EMITED_YET)
    (hroll : roll'.playerVote = roll.playerVote.insert guid vote)
    (hrolling : roll'.totalPlayersRolling = roll.totalPlayersRolling)
    (hneed : roll'.totalNeed = if vote == .NEED then roll.totalNeed + 1 else roll.totalNeed)
    (hgreed : roll'.totalGreed = if isGreed vote then roll.totalGreed + 1 else roll.totalGreed)
    (hpass : roll'.totalPass = if vote == .PASS then roll.totalPass + 1 else roll.totalPass) :
    Tallied roll' := by
  have hsize : roll.playerVote.size < 256 := ht.rolling ▸ roll.totalPlayersRolling.toNat_lt
  refine ⟨?_, ?_, ?_, ?_⟩
  · rw [hrolling, size_change h hroll, ht.rolling]
  · rw [hneed]
    exact toNat_first hsize h hroll (p := (· == .NEED)) rfl ht.need
  · rw [hgreed]
    exact toNat_first hsize h hroll rfl ht.greed
  · rw [hpass]
    exact toNat_first hsize h hroll (p := (· == .PASS)) rfl ht.pass

/-- A vote of a player who has not voted yet is added to the tally, and what is no vote changes
nothing. -/
theorem tallied_vote (ht : Tallied roll) (hv : roll.Valid) {Choice : UInt8}
    (h : (rollType Choice).isSome → roll.playerVote[guid]? = some .NOT_EMITED_YET) :
    Tallied (roll.vote guid Choice) ∧ (roll.vote guid Choice).Valid := by
  rw [Roll.vote]
  cases hchoice : rollType Choice with
  | none => exact ⟨ht, hv⟩
  | some choice =>
    have h := h (by rw [hchoice]; rfl)
    cases choice with
    | PASS => exact ⟨ht.first h rfl rfl rfl rfl rfl, valid_insert hv (by decide) rfl⟩
    | NEED => exact ⟨ht.first h rfl rfl rfl rfl rfl, valid_insert hv (by decide) rfl⟩
    | GREED => exact ⟨ht.first h rfl rfl rfl rfl rfl, valid_insert hv (by decide) rfl⟩
    | DISENCHANT => exact ⟨ht.first h rfl rfl rfl rfl rfl, valid_insert hv (by decide) rfl⟩
    | NOT_EMITED_YET => exact ⟨ht, hv⟩
    | NOT_VALID => exact ⟨ht, hv⟩

theorem toNat_leave {roll' : Roll} {x : UInt8} (h : roll.playerVote[guid]? = some vote)
    (hroll : roll'.playerVote = roll.playerVote.erase guid) {p : RollVote → Bool}
    (hx : x.toNat = roll.votes p) : (if p vote then x - 1 else x).toNat = roll'.votes p := by
  have hleave := votes_leave h hroll p
  by_cases hvote : p vote = true
  · have hsub : (x - 1).toNat + 1 = x.toNat := toNat_sub_one (hx ▸ one_le_votes h hvote)
    rw [if_pos hvote] at hleave ⊢
    omega
  · rw [if_neg hvote] at hleave ⊢
    omega

theorem Tallied.leave {roll' : Roll} (ht : Tallied roll) (h : roll.playerVote[guid]? = some vote)
    (hroll : roll'.playerVote = roll.playerVote.erase guid)
    (hrolling : roll'.totalPlayersRolling = roll.totalPlayersRolling - 1)
    (hneed : roll'.totalNeed = if vote == .NEED then roll.totalNeed - 1 else roll.totalNeed)
    (hgreed : roll'.totalGreed = if isGreed vote then roll.totalGreed - 1 else roll.totalGreed)
    (hpass : roll'.totalPass = if vote == .PASS then roll.totalPass - 1 else roll.totalPass) :
    Tallied roll' := by
  refine ⟨?_, ?_, ?_, ?_⟩
  · have hsize := size_leave h hroll
    have hsub := toNat_sub_one (x := roll.totalPlayersRolling) (by rw [ht.rolling]; omega)
    rw [ht.rolling] at hsub
    rw [hrolling]
    omega
  · rw [hneed]
    exact toNat_leave h hroll (p := (· == .NEED)) ht.need
  · rw [hgreed]
    exact toNat_leave h hroll ht.greed
  · rw [hpass]
    exact toNat_leave h hroll (p := (· == .PASS)) ht.pass

theorem playerVote_removeVoter : (roll.removeVoter guid vote).playerVote = roll.playerVote.erase guid := by
  rw [Roll.removeVoter]
  split_ifs <;> rfl

theorem valid_removeVoter (hv : roll.Valid) : (roll.removeVoter guid vote).Valid := by
  intro a w hw
  rw [playerVote_removeVoter, TreeMap.get_erase, Option.ite_none_left_eq_some] at hw
  exact hv a w hw.2

theorem tallied_removeVoter (ht : Tallied roll) (hv : roll.Valid)
    (h : roll.playerVote[guid]? = some vote) : Tallied (roll.removeVoter guid vote) := by
  cases vote with
  | PASS => exact ht.leave h rfl rfl rfl rfl rfl
  | NEED => exact ht.leave h rfl rfl rfl rfl rfl
  | GREED => exact ht.leave h rfl rfl rfl rfl rfl
  | DISENCHANT => exact ht.leave h rfl rfl rfl rfl rfl
  | NOT_EMITED_YET => exact ht.leave h rfl rfl rfl rfl rfl
  | NOT_VALID => exact absurd rfl (hv guid _ h)

theorem Tallied.allVoted (ht : Tallied roll) (hv : roll.Valid) (h : roll.totalPlayersRolling.toNat ≤
      roll.totalPass.toNat + roll.totalNeed.toNat + roll.totalGreed.toNat) : AllVoted roll := by
  intro guid vote hvote
  refine ⟨?_, hv guid vote hvote⟩
  rintro rfl
  have hsum : roll.votes (· == .PASS) + roll.votes (· == .NEED) + roll.votes isGreed +
      roll.votes (· == .NOT_EMITED_YET) ≤ roll.playerVote.size := by
    rw [votes, votes, votes, votes, ← TreeMap.total_add, ← TreeMap.total_add, ← TreeMap.total_add, ← TreeMap.total_one]
    refine TreeMap.total_le_total fun _ vote ↦ ?_
    cases vote <;> decide
  have hone := one_le_votes (p := (· == .NOT_EMITED_YET)) hvote rfl
  have hrolling := ht.rolling
  have hneed := ht.need
  have hgreed := ht.greed
  have hpass := ht.pass
  omega

end Roll

/-! ## The rolls of a group -/

/-- `RollsTallied`, and no vote in a roll is `NOT_VALID`. -/
structure RollsSound (group : GroupRolls) : Prop where
  valid : ∀ roll ∈ group.RollId, roll.Tallied ∧ roll.Valid
  decided : ∀ roll ∈ group.decided, roll.Tallied ∧ roll.AllVoted

variable {group : GroupRolls} {loots : ObjectGuid → LootState} {playerGUID guid Guid : ObjectGuid}
  {Choice : UInt8}

theorem RollsSound.rollsTallied (h : RollsSound group) : RollsTallied group :=
  ⟨fun roll hroll ↦ (h.valid roll hroll).1, h.decided⟩

section starting

variable {members : GroupMembers} {itemGUIDs : ℕ → ObjectGuid} {RollId : List Roll}

/-- Rolls that a list gets are tallied, if they come from `Roll.start`. -/
theorem sound_rollFor (h : ∀ roll ∈ RollId, roll.Tallied ∧ roll.Valid) (autoPass : Bool)
    (li : LootItem) (itemSlot drawn : ℕ) :
    ∀ roll ∈ GroupRolls.rollFor autoPass members itemGUIDs li itemSlot drawn RollId, roll.Tallied ∧ roll.Valid := by
  intro roll hroll
  dsimp only [GroupRolls.rollFor] at hroll
  split_ifs at hroll
  · rcases List.mem_append.mp hroll with hroll | hroll
    · exact h roll hroll
    · rw [List.mem_singleton.mp hroll]
      exact Roll.tallied_start autoPass members (itemGUIDs drawn) li itemSlot
  · exact h roll hroll

theorem sound_rollItems (m_lootThreshold : ℕ) (items : List LootItem) (itemSlot drawn : ℕ)
    (h : ∀ roll ∈ RollId, roll.Tallied ∧ roll.Valid) :
    ∀ roll ∈ (GroupRolls.rollItems members m_lootThreshold itemGUIDs items itemSlot drawn RollId).2,
      roll.Tallied ∧ roll.Valid := by
  induction items generalizing itemSlot drawn RollId with
  | nil => exact h
  | cons li rest ih =>
    rw [GroupRolls.rollItems]
    split_ifs
    · exact ih _ _ (sound_rollFor h true li itemSlot drawn)
    · exact ih _ _ h

theorem sound_rollQuestItems (items : List LootItem) (itemSlot drawn : ℕ)
    (h : ∀ roll ∈ RollId, roll.Tallied ∧ roll.Valid) :
    ∀ roll ∈ GroupRolls.rollQuestItems members itemGUIDs items itemSlot drawn RollId, roll.Tallied ∧ roll.Valid := by
  induction items generalizing itemSlot drawn RollId with
  | nil => exact h
  | cons li rest ih =>
    rw [GroupRolls.rollQuestItems]
    split_ifs
    · exact ih _ _ (sound_rollFor h false li itemSlot drawn)
    · exact ih _ _ h

theorem RollsSound.groupLoot (h : RollsSound group) (loot : Loot) (m_lootThreshold : ℕ) :
    RollsSound (group.GroupLoot loot members m_lootThreshold itemGUIDs) :=
  ⟨sound_rollQuestItems _ _ _ (sound_rollItems _ _ _ _ h.valid), h.decided⟩

end starting

/-- What `CountRollVote` does: nothing, or it counts the vote in one roll, which is decided when there are
enough votes. -/
theorem countRollVote_effect (group : GroupRolls) (loots : ObjectGuid → LootState)
    (playerGUID Guid : ObjectGuid) (Choice : UInt8) :
    group.CountRollVote loots playerGUID Guid Choice = group ∨
      ∃ rollI roll vote, group.RollId[rollI]? = some roll ∧ roll.playerVote[playerGUID]? = some vote ∧
        group.voteBefore loots playerGUID Guid = some vote ∧
        ((roll.vote playerGUID Choice).totalPass.toNat + (roll.vote playerGUID Choice).totalNeed.toNat +
              (roll.vote playerGUID Choice).totalGreed.toNat <
            (roll.vote playerGUID Choice).totalPlayersRolling.toNat ∧
          group.CountRollVote loots playerGUID Guid Choice =
            { group with RollId := group.RollId.set rollI (roll.vote playerGUID Choice) } ∨
          (roll.vote playerGUID Choice).totalPlayersRolling.toNat ≤ (roll.vote playerGUID Choice).totalPass.toNat +
                (roll.vote playerGUID Choice).totalNeed.toNat +
                (roll.vote playerGUID Choice).totalGreed.toNat ∧
            group.CountRollVote loots playerGUID Guid Choice =
              { RollId := group.RollId.eraseIdx rollI
                decided := group.decided ++ [roll.vote playerGUID Choice] }) := by
  rw [GroupRolls.CountRollVote]
  cases hrollI : group.GetRoll loots Guid with
  | none => exact .inl rfl
  | some rollI =>
    dsimp only
    cases hroll : group.RollId[rollI]? with
    | none => exact .inl rfl
    | some roll =>
      dsimp only
      cases hvote : roll.playerVote[playerGUID]? with
      | none =>
        have hcontains : roll.playerVote.contains playerGUID = false := by
          simp [ExtTreeMap.contains_eq_isSome_getElem?, hvote]
        exact .inl (if_pos (by rw [hcontains]; rfl))
      | some vote =>
        have hcontains : roll.playerVote.contains playerGUID = true := by
          simp [ExtTreeMap.contains_eq_isSome_getElem?, hvote]
        by_cases hempty : (loots roll.itemGUID).itemsEmpty = true
        · exact .inl ((if_neg (by simp [hcontains])).trans (if_pos hempty))
        · have hbefore : group.voteBefore loots playerGUID Guid = some vote := by
            simp [GroupRolls.voteBefore, hrollI, hroll, hempty, hvote]
          refine .inr ⟨rollI, roll, vote, hroll, hvote, hbefore, ?_⟩
          rw [if_neg (by simp [hcontains]), if_neg hempty]
          split_ifs with hdecided
          · exact .inr ⟨hdecided, rfl⟩
          · exact .inl ⟨not_le.mp hdecided, rfl⟩

theorem RollsSound.countRollVote (h : RollsSound group) (honce : (rollType Choice).isSome →
      ∀ vote ∈ group.voteBefore loots playerGUID Guid, vote = .NOT_EMITED_YET) :
    RollsSound (group.CountRollVote loots playerGUID Guid Choice) := by
  rcases countRollVote_effect group loots playerGUID Guid Choice with
    heq | ⟨rollI, roll, vote, hroll, hvote, hbefore, heffect⟩
  · rwa [heq]
  have hmem := h.valid roll (List.mem_of_getElem? hroll)
  have hfirst : (rollType Choice).isSome → roll.playerVote[playerGUID]? = some .NOT_EMITED_YET :=
    fun hChoice ↦ by rw [hvote, honce hChoice vote hbefore]
  obtain ⟨ht, hv⟩ := Roll.tallied_vote hmem.1 hmem.2 hfirst
  rcases heffect with ⟨-, heq⟩ | ⟨hdecided, heq⟩
  · rw [heq]
    refine ⟨fun other hother ↦ ?_, h.decided⟩
    rcases List.mem_or_eq_of_mem_set hother with hother | rfl
    · exact h.valid other hother
    · exact ⟨ht, hv⟩
  · rw [heq]
    refine ⟨fun other hother ↦ h.valid other (List.mem_of_mem_eraseIdx hother), fun other hother ↦ ?_⟩
    rcases List.mem_append.mp hother with hother | hother
    · exact h.decided other hother
    · rw [List.mem_singleton.mp hother]
      exact ⟨ht, ht.allVoted hv hdecided⟩

/-- Taking a member out of a roll keeps the tallies, and so does the vote that is none with which
`RemoveMember` asks whether the roll is decided. -/
theorem RollsSound.removeFromRoll (h : RollsSound group) (it : ℕ) :
    RollsSound (GroupRolls.removeFromRoll loots guid group it) := by
  rw [GroupRolls.removeFromRoll]
  cases hroll : group.RollId[it]? with
  | none => exact h
  | some roll =>
    dsimp only
    cases hvote : roll.playerVote[guid]? with
    | none => exact h
    | some vote =>
      have hmem := h.valid roll (List.mem_of_getElem? hroll)
      refine RollsSound.countRollVote ⟨fun other hother ↦ ?_, h.decided⟩
        (fun hChoice ↦ absurd hChoice (by decide))
      rcases List.mem_or_eq_of_mem_set hother with hother | rfl
      · exact h.valid other hother
      · exact ⟨Roll.tallied_removeVoter hmem.1 hmem.2 hvote, Roll.valid_removeVoter hmem.2⟩

theorem RollsSound.removeMember (h : RollsSound group) : RollsSound (group.RemoveMember loots guid) := by
  rw [GroupRolls.RemoveMember]
  generalize List.range group.RollId.length = its
  induction its generalizing group with
  | nil => exact h
  | cons it its ih => exact ih (h.removeFromRoll it)

theorem RollsSound.next {call : RollCall} {group' : GroupRolls} (h : RollsSound group)
    (honce : CountsOnce group call) (hnext : rollMachine.next group call = some group') :
    RollsSound group' := by
  cases call with
  | GroupLoot loot members m_lootThreshold itemGUIDs =>
    exact Option.some_inj.mp hnext ▸ h.groupLoot loot m_lootThreshold
  | NeedBeforeGreed loot members m_lootThreshold itemGUIDs =>
    exact Option.some_inj.mp hnext ▸ h.groupLoot loot m_lootThreshold
  | CountRollVote loots playerGUID Guid Choice =>
    exact Option.some_inj.mp hnext ▸ h.countRollVote honce
  | RemoveMember loots guid => exact Option.some_inj.mp hnext ▸ h.removeMember
  | EndRoll ended =>
    rw [← Option.some_inj.mp hnext]
    exact ⟨fun roll hroll ↦ h.valid roll (List.mem_of_mem_filter hroll), h.decided⟩

/-- **The tally of the rolls.**  In every run in which nobody votes twice in a roll, the counters of every
roll are the numbers of its players and of their votes, and a roll that is decided by votes is decided
after everybody who takes part has voted. -/
theorem rollsTallied_of_reaches {group : GroupRolls} (h : rollMachine.Reaches CountsOnce group) :
    RollsTallied group := by
  have hsound : RollsSound group := h.invariant
    ⟨fun _ hroll ↦ absurd hroll List.not_mem_nil, fun _ hroll ↦ absurd hroll List.not_mem_nil⟩
    fun _ _ _ hs honce hnext ↦ hs.next honce hnext
  exact hsound.rollsTallied

/-! ## Two runs -/

instance (group : GroupRolls) (call : RollCall) : Decidable (CountsOnce group call) := by
  cases call <;> dsimp only [CountsOnce] <;> infer_instance

/-- A loot with one item that is rolled for. -/
def oneItem : Loot :=
  { Loot.new 0 with items := [LootItem.new ⟨1, ⟨1, false, false, false, 2⟩, false, false⟩ 1] }

/-- A member who rolls. -/
def roller (guid : ObjectGuid) (GetPassOnGroupLoot : Bool) : Roller :=
  ⟨guid, true, true, GetPassOnGroupLoot, fun _ ↦ true⟩

/-- Three members, of whom the third passes automatically. -/
def threeRollers : GroupMembers where
  list := [roller 1 false, roller 2 false, roller 3 true]
  nodup := by decide
  length_le := by decide

/-- A loot that lies there with its items. -/
def lying (_ : ObjectGuid) : LootState := ⟨true, false⟩

/-- The calls of a group that rolls for an item. -/
def rolling (votes : List RollCall) : List RollCall :=
  .GroupLoot oneItem threeRollers 2 (fun drawn ↦ 100 + drawn) :: votes

theorem rollsTallied_rolling : ∃ group, rollMachine.exec CountsOnce rollMachine.start
      (rolling [.CountRollVote lying 1 100 1, .CountRollVote lying 2 100 3]) = some group ∧
    group.decided.length = 1 ∧ ∀ roll ∈ group.decided, roll.Tallied ∧ roll.AllVoted := by
  refine (Machine.exists_exec _ _ _ (fun group ↦ group.decided.length = 1) (by decide +kernel)).imp
    fun group ⟨hgroup, hdecided, hreaches⟩ ↦ ⟨hgroup, hdecided, (rollsTallied_of_reaches hreaches).decided⟩

/-- A member who passes twice is counted twice, and the roll is decided without the vote of the second
member. -/
theorem not_rollsTallied_of_reachable :
    ¬ ∀ group, rollMachine.Reachable group → RollsTallied group := by
  intro h
  obtain ⟨group, hgroup, hdecided⟩ := rollMachine.exists_reachable (rolling [.CountRollVote lying 1 100 0,
    .CountRollVote lying 1 100 0])
    (fun group ↦ (group.decided.map fun roll ↦ roll.playerVote[2]?) = [some .NOT_EMITED_YET]) (by decide +kernel)
  obtain ⟨roll, hroll, hvote⟩ : ∃ roll ∈ group.decided, roll.playerVote[2]? = some .NOT_EMITED_YET :=
    List.mem_map.mp (hdecided ▸ List.mem_cons_self)
  have hall := ((h group hgroup).decided roll hroll).2
  exact (hall 2 .NOT_EMITED_YET hvote).1 rfl

end Gundrak.Looting
