import Gundrak.Util.Machine
import Gundrak.Util.TreeMap
import Gundrak.DungeonFinding.LFG

/-!
# Voting a player out of a group

`InitBoot` opens a vote in a dungeon finder group: everybody is asked, the victim has denied already and the kicker
has agreed.  `UpdateBoot` takes an answer, and closes the vote when three have agreed or three have denied.

`Ballot` is the vote as it is meant: those who were members when it was opened answer once.  **`agrees_with_ballot`**
says that in every run the vote is as the ballot says, as long as no one who has joined the group since answers:
`votes[guid]` makes an entry for such a player, and the entry denies.

The answers are sent to nobody here, and what runs out with the time is left out: `cancelTime`, `reason`.
-/

open Std (ExtTreeMap)

namespace Gundrak.Lfg

/-- `LFG_GROUP_KICK_VOTES_NEEDED`. -/
def LFG_GROUP_KICK_VOTES_NEEDED : ℕ := 3

/-- `LFG_GROUP_MAX_KICKS`. -/
def LFG_GROUP_MAX_KICKS : ℕ := 3

/-- `LfgPlayerBoot`. -/
structure LfgPlayerBoot where
  inProgress : Bool
  votes : ExtTreeMap ObjectGuid LfgAnswer
  victim : ObjectGuid

/-- `LfgGroupData`, with what a vote touches. -/
structure LfgGroupData where
  m_KicksLeft : ℕ
  m_VoteKickActive : Bool
deriving DecidableEq

/-- `LfgGroupData::LfgGroupData`. -/
def LfgGroupData.new : LfgGroupData := ⟨LFG_GROUP_MAX_KICKS, false⟩

/-- `LfgGroupData::DecreaseKicksLeft`. -/
def LfgGroupData.DecreaseKicksLeft (data : LfgGroupData) : LfgGroupData :=
  if data.m_KicksLeft ≠ 0 then { data with m_KicksLeft := data.m_KicksLeft - 1 } else data

/-- `LFGMgr`, with its votes, and with the groups and the victims that `Player::RemoveFromGroup` was called with. -/
structure LFGMgr where
  BootsStore : ExtTreeMap ObjectGuid LfgPlayerBoot
  GroupsStore : ExtTreeMap ObjectGuid LfgGroupData
  kicked : List (ObjectGuid × ObjectGuid)

/-- An answer of a player: the group he is in at the time, and whether `GetGroupByGUID` finds it. -/
structure Answer where
  guid : ObjectGuid
  GetGroup : ObjectGuid
  found : Bool
  accept : Bool

namespace LFGMgr

variable (m : LFGMgr)

/-- `GroupsStore[gguid]`. -/
def groupData (gguid : ObjectGuid) : LfgGroupData := (m.GroupsStore[gguid]?).getD .new

/-- Assign to `GroupsStore[gguid]`. -/
def setGroupData (gguid : ObjectGuid) (data : LfgGroupData) : LFGMgr :=
  { m with GroupsStore := m.GroupsStore.insert gguid data }

/-- `LFGMgr::SetVoteKick`. -/
def SetVoteKick (gguid : ObjectGuid) (active : Bool) : LFGMgr :=
  m.setGroupData gguid { m.groupData gguid with m_VoteKickActive := active }

/-- `LFGMgr::DecreaseKicksLeft`. -/
def DecreaseKicksLeft (guid : ObjectGuid) : LFGMgr := m.setGroupData guid (m.groupData guid).DecreaseKicksLeft

/-- The votes of a group that is asked, after those there were. -/
def askAll (kicker victim : ObjectGuid) (players : List ObjectGuid) (votes : ExtTreeMap ObjectGuid LfgAnswer) :
    ExtTreeMap ObjectGuid LfgAnswer :=
  ((players.foldl (fun votes guid ↦ votes.insert guid .pending) votes).insert victim .deny).insert kicker .agree

/-- `LFGMgr::InitBoot`; `players` is what `GetPlayers` gives. -/
def InitBoot (gguid kicker victim : ObjectGuid) (players : List ObjectGuid) : LFGMgr :=
  let m := m.SetVoteKick gguid true
  let votes := (m.BootsStore[gguid]?).elim ∅ (·.votes)
  { m with BootsStore := m.BootsStore.insert gguid ⟨true, askAll kicker victim players votes, victim⟩ }

/-- The number of answers of some kind, an `uint8`. -/
def votesNum (votes : ExtTreeMap ObjectGuid LfgAnswer) (p : LfgAnswer → Bool) : ℕ :=
  (votes.toList.filter fun entry ↦ p entry.2).length % 2 ^ 8

/-- The end of `UpdateBoot`: the vote is closed. -/
def closeBoot (gguid : ObjectGuid) (boot : LfgPlayerBoot) (found agreed : Bool) : LFGMgr :=
  let m := m.SetVoteKick gguid false
  let m := if agreed then
      (if found then { m with kicked := (gguid, boot.victim) :: m.kicked } else m).DecreaseKicksLeft gguid
    else m
  { m with BootsStore := m.BootsStore.erase gguid }

/-- Assign to `BootsStore[gguid]`. -/
def setBoot (gguid : ObjectGuid) (boot : LfgPlayerBoot) : LFGMgr :=
  { m with BootsStore := m.BootsStore.insert gguid boot }

/-- The second half of `UpdateBoot`: the votes are counted, the new one included. -/
def countVotes (a : Answer) (boot : LfgPlayerBoot) : LFGMgr :=
  let votesNum := LFGMgr.votesNum boot.votes (· ≠ .pending)
  let agreeNum := LFGMgr.votesNum boot.votes (· = .agree)
  if agreeNum < LFG_GROUP_KICK_VOTES_NEEDED ∧ votesNum - agreeNum < LFG_GROUP_KICK_VOTES_NEEDED then
    m.setBoot a.GetGroup boot
  else m.closeBoot a.GetGroup { boot with inProgress := false } a.found (agreeNum = LFG_GROUP_KICK_VOTES_NEEDED)

/-- The votes after `votes[guid]` has been read: `operator[]` makes an entry, which denies, where there is none. -/
def readVotes (votes : ExtTreeMap ObjectGuid LfgAnswer) (guid : ObjectGuid) : ExtTreeMap ObjectGuid LfgAnswer :=
  if guid ∈ votes then votes else votes.insert guid .deny

/-- `LFGMgr::UpdateBoot`. -/
def UpdateBoot (a : Answer) : LFGMgr :=
  if a.GetGroup = ObjectGuid.Empty then m
  else
    match m.BootsStore[a.GetGroup]? with
    | none => m
    | some boot =>
      let votes := readVotes boot.votes a.guid
      if votes[a.guid]? ≠ some .pending then m.setBoot a.GetGroup { boot with votes := votes }
      else m.countVotes a { boot with votes := votes.insert a.guid (if a.accept then .agree else .deny) }

end LFGMgr

/-! ## The vote as it is meant -/

/-- How a vote ends: the victim is kicked out of the group, if it is found, or stays. -/
inductive Outcome where
  | kick (found : Bool)
  | keep
deriving DecidableEq

/-- What the players have answered, and how the vote has ended. -/
structure Ballot where
  answer : ObjectGuid → LfgAnswer
  outcome : Option Outcome

namespace Ballot

/-- The ballot when the vote is opened. -/
def opened (kicker victim : ObjectGuid) : Ballot where
  answer guid := if guid = kicker then .agree else if guid = victim then .deny else .pending
  outcome := none

/-- The members that have given an answer. -/
def voters (members : Finset ObjectGuid) (b : Ballot) (v : LfgAnswer) : Finset ObjectGuid :=
  members.filter fun guid ↦ b.answer guid = v

/-- What a group has of a vote in the end: the kicks that it has used. -/
def kicksUsed : Option Outcome → ℕ
  | some (.kick _) => 1
  | _ => 0

/-- Who has been kicked. -/
def expelled (victim : ObjectGuid) : Option Outcome → List ObjectGuid
  | some (.kick true) => [victim]
  | _ => []

end Ballot

/-- A vote that is opened in a group that has none, with the kicker and the victim among its members. -/
structure Vote where
  before : LFGMgr
  gguid : ObjectGuid
  kicker : ObjectGuid
  victim : ObjectGuid
  players : List ObjectGuid
  idle : before.BootsStore[gguid]? = none
  group : gguid ≠ ObjectGuid.Empty
  kicker_mem : kicker ∈ players
  victim_mem : victim ∈ players

namespace Vote

variable (v : Vote)

/-- The members of the group when the vote is opened. -/
def members : Finset ObjectGuid := v.players.toFinset

/-- A member who has not answered yet answers; the third answer of a kind ends the vote. -/
def cast (b : Ballot) (a : Answer) : Ballot :=
  if b.outcome = none ∧ a.GetGroup = v.gguid ∧ a.guid ∈ v.members ∧ b.answer a.guid = .pending then
    let b := { b with answer := Function.update b.answer a.guid (if a.accept then .agree else .deny) }
    if LFG_GROUP_KICK_VOTES_NEEDED ≤ (b.voters v.members .agree).card then { b with outcome := some (.kick a.found) }
    else if LFG_GROUP_KICK_VOTES_NEEDED ≤ (b.voters v.members .deny).card then { b with outcome := some .keep }
    else b
  else b

end Vote

/-- The victims that were kicked out of a group. -/
def LFGMgr.victims (m : LFGMgr) (gguid : ObjectGuid) : List ObjectGuid := (m.kicked.filter (·.1 = gguid)).map (·.2)

namespace Vote

/-- The votes of a map are those of the members on the ballot. -/
def Matches (v : Vote) (b : Ballot) (votes : ExtTreeMap ObjectGuid LfgAnswer) : Prop :=
  ∀ guid, votes[guid]? = if guid ∈ v.members then some (b.answer guid) else none

/-- The votes in the manager are those on the ballot, and what the vote has come to is what the ballot says. -/
structure Agrees (v : Vote) (m : LFGMgr) (b : Ballot) : Prop where
  ongoing : b.outcome = none → ∃ boot, m.BootsStore[v.gguid]? = some boot ∧ boot.victim = v.victim ∧
    v.Matches b boot.votes
  closed : b.outcome ≠ none → m.BootsStore[v.gguid]? = none
  kicks : (m.groupData v.gguid).m_KicksLeft = (v.before.groupData v.gguid).m_KicksLeft - Ballot.kicksUsed b.outcome
  active : (m.groupData v.gguid).m_VoteKickActive = b.outcome.isNone
  victims : m.victims v.gguid = Ballot.expelled v.victim b.outcome ++ v.before.victims v.gguid

/-- While the vote is open, neither side has enough. -/
def Undecided (v : Vote) (b : Ballot) : Prop :=
  b.outcome = none → (b.voters v.members .agree).card < LFG_GROUP_KICK_VOTES_NEEDED ∧
    (b.voters v.members .deny).card < LFG_GROUP_KICK_VOTES_NEEDED

/-- The vote and its ballot, driven by answers. -/
def machine (v : Vote) : Machine (LFGMgr × Ballot) Answer where
  start := (v.before.InitBoot v.gguid v.kicker v.victim v.players, .opened v.kicker v.victim)
  next s a := some (s.1.UpdateBoot a, v.cast s.2 a)

/-- No one answers an open vote of the group who was not a member when it was opened. -/
def Admits (v : Vote) (s : LFGMgr × Ballot) (a : Answer) : Prop :=
  a.GetGroup = v.gguid → v.gguid ∈ s.1.BootsStore → a.guid ∈ v.players

end Vote

/-! ## Reading the manager -/

namespace LFGMgr

variable {m : LFGMgr} {gguid g : ObjectGuid}

section

variable (data : LfgGroupData)

@[simp] theorem groupData_setGroupData :
    (m.setGroupData g data).groupData gguid = if g = gguid then data else m.groupData gguid := by
  rw [groupData, setGroupData, TreeMap.get_insert]
  split <;> rfl

theorem kicksLeft_DecreaseKicksLeft : data.DecreaseKicksLeft.m_KicksLeft = data.m_KicksLeft - 1 := by
  rw [LfgGroupData.DecreaseKicksLeft]
  split
  · rfl
  · rename_i h
    rw [not_not.mp h]

theorem active_DecreaseKicksLeft : data.DecreaseKicksLeft.m_VoteKickActive = data.m_VoteKickActive := by
  rw [LfgGroupData.DecreaseKicksLeft]
  split <;> rfl

end

/-- Everybody who is asked has an entry, and nobody else who had none before. -/
theorem get_foldl_pending (players : List ObjectGuid) (votes : ExtTreeMap ObjectGuid LfgAnswer) (guid : ObjectGuid) :
    (players.foldl (fun votes guid ↦ votes.insert guid .pending) votes)[guid]? =
      if guid ∈ players then some LfgAnswer.pending else votes[guid]? := by
  induction players generalizing votes with
  | nil => rfl
  | cons p players ih =>
    rw [List.foldl_cons, ih, TreeMap.get_insert]
    by_cases hp : p = guid
    · subst hp
      simp
    · simp [hp, Ne.symm hp]

/-- What a vote of another group does not touch. -/
structure SameAt (gguid : ObjectGuid) (m m' : LFGMgr) : Prop where
  boots : m'.BootsStore[gguid]? = m.BootsStore[gguid]?
  data : m'.groupData gguid = m.groupData gguid
  victims : m'.victims gguid = m.victims gguid

theorem SameAt.refl (gguid : ObjectGuid) (m : LFGMgr) : SameAt gguid m m := ⟨rfl, rfl, rfl⟩

theorem sameAt_setBoot {boot : LfgPlayerBoot} (hne : g ≠ gguid) : SameAt gguid m (m.setBoot g boot) :=
  ⟨by rw [setBoot, TreeMap.get_insert, if_neg hne], rfl, rfl⟩

theorem sameAt_closeBoot {boot : LfgPlayerBoot} (hne : g ≠ gguid) (found agreed : Bool) :
    SameAt gguid m (m.closeBoot g boot found agreed) := by
  refine ⟨?_, ?_, ?_⟩
  · rw [closeBoot]
    rw [TreeMap.get_erase, if_neg hne]
    cases agreed <;> cases found <;> rfl
  · cases agreed <;> cases found <;> simp [closeBoot, SetVoteKick, LFGMgr.DecreaseKicksLeft, groupData, setGroupData,
      TreeMap.get_insert, hne]
  · cases agreed <;> cases found <;>
      simp [closeBoot, SetVoteKick, LFGMgr.DecreaseKicksLeft, setGroupData, LFGMgr.victims, hne]

theorem sameAt_countVotes {a : Answer} (boot : LfgPlayerBoot) (hne : a.GetGroup ≠ gguid) :
    SameAt gguid m (m.countVotes a boot) := by
  rw [countVotes]
  split
  · exact sameAt_setBoot hne
  · exact sameAt_closeBoot hne _ _

theorem sameAt_UpdateBoot {a : Answer} (hne : a.GetGroup ≠ gguid) : SameAt gguid m (m.UpdateBoot a) := by
  rw [UpdateBoot]
  split
  · exact .refl gguid m
  · split
    · exact .refl gguid m
    · dsimp only
      split
      · exact sameAt_setBoot hne
      · exact sameAt_countVotes _ hne

/-! ## Closing a vote -/

variable (m) in
theorem boots_closeBoot (gguid : ObjectGuid) (boot : LfgPlayerBoot) (found agreed : Bool) :
    (m.closeBoot gguid boot found agreed).BootsStore[gguid]? = none := by
  simp [closeBoot]

variable (m) in
theorem groupData_closeBoot (gguid : ObjectGuid) (boot : LfgPlayerBoot) (found agreed : Bool) :
    ((m.closeBoot gguid boot found agreed).groupData gguid).m_KicksLeft =
        (m.groupData gguid).m_KicksLeft - (if agreed then 1 else 0) ∧
      ((m.closeBoot gguid boot found agreed).groupData gguid).m_VoteKickActive = false := by
  have hclosed : (m.SetVoteKick gguid false).groupData gguid = { m.groupData gguid with m_VoteKickActive := false } := by
    simp [SetVoteKick, groupData_setGroupData]
  cases agreed with
  | false => exact ⟨congrArg (·.m_KicksLeft) hclosed, congrArg (·.m_VoteKickActive) hclosed⟩
  | true =>
    have hdata : (m.closeBoot gguid boot found true).groupData gguid =
        LfgGroupData.DecreaseKicksLeft ((m.SetVoteKick gguid false).groupData gguid) := by
      cases found <;> exact (groupData_setGroupData _).trans (if_pos rfl)
    rw [hdata, hclosed, kicksLeft_DecreaseKicksLeft, active_DecreaseKicksLeft]
    exact ⟨rfl, rfl⟩

variable (m) in
theorem victims_closeBoot (gguid : ObjectGuid) (boot : LfgPlayerBoot) (found agreed : Bool) :
    (m.closeBoot gguid boot found agreed).victims gguid =
      (if agreed ∧ found then [boot.victim] else []) ++ m.victims gguid := by
  cases agreed <;> cases found <;> simp [closeBoot, SetVoteKick, LFGMgr.DecreaseKicksLeft, setGroupData, LFGMgr.victims]

end LFGMgr

/-! ## Counting the votes -/

namespace Vote

open LFGMgr

variable {v : Vote} {m : LFGMgr} {b : Ballot} {boot : LfgPlayerBoot} {votes : ExtTreeMap ObjectGuid LfgAnswer}
variable {a : Answer}

/-- The ballot after an answer of a member. -/
def marked (b : Ballot) (a : Answer) : Ballot :=
  { b with answer := Function.update b.answer a.guid (if a.accept then .agree else .deny) }

theorem Matches.insert (h : v.Matches b votes) (hmem : a.guid ∈ v.members) :
    v.Matches (marked b a) (votes.insert a.guid (if a.accept then .agree else .deny)) := by
  intro guid
  rw [TreeMap.get_insert, h guid]
  by_cases hguid : a.guid = guid
  · subst hguid
    have hanswer : (marked b a).answer a.guid = if a.accept then .agree else .deny := Function.update_self ..
    simp [hmem, hanswer]
  · have hanswer : (marked b a).answer guid = b.answer guid := Function.update_of_ne (Ne.symm hguid) _ _
    rw [if_neg hguid, hanswer]

theorem Matches.votesNum (h : v.Matches b votes) (p : LfgAnswer → Bool) :
    LFGMgr.votesNum votes p = (v.members.filter fun guid ↦ p (b.answer guid) = true).card % 2 ^ 8 := by
  rw [LFGMgr.votesNum]
  congr 1
  refine TreeMap.length_filter_toList votes p fun guid ↦ ?_
  rw [Finset.mem_filter, h guid]
  constructor
  · rintro ⟨hmem, hp⟩
    exact ⟨_, if_pos hmem, hp⟩
  · rintro ⟨answer, hanswer, hp⟩
    obtain ⟨hmem, hsome⟩ := Option.ite_none_right_eq_some.mp hanswer
    exact ⟨hmem, Option.some.inj hsome ▸ hp⟩

theorem card_answered (v : Vote) (b : Ballot) : (v.members.filter fun guid ↦ b.answer guid ≠ .pending).card =
      (b.voters v.members .agree).card + (b.voters v.members .deny).card := by
  rw [Ballot.voters, Ballot.voters, ← Finset.card_union_of_disjoint, ← Finset.filter_or]
  · refine congrArg Finset.card (Finset.filter_congr fun guid _ ↦ ?_)
    cases b.answer guid <;> simp
  · refine Finset.disjoint_filter.mpr fun guid _ hagree hdeny ↦ ?_
    simp [hagree] at hdeny

theorem card_voters_marked (v : Vote) (b : Ballot) (a : Answer) (answer : LfgAnswer) :
    ((marked b a).voters v.members answer).card ≤ (b.voters v.members answer).card + 1 := by
  refine le_trans (Finset.card_le_card ?_) (Finset.card_insert_le a.guid (b.voters v.members answer))
  intro guid hguid
  obtain ⟨hmem, hanswer⟩ := Finset.mem_filter.mp hguid
  by_cases hsame : guid = a.guid
  · exact Finset.mem_insert.mpr (.inl hsame)
  · refine Finset.mem_insert_of_mem (Finset.mem_filter.mpr ⟨hmem, ?_⟩)
    rw [marked] at hanswer
    exact (Function.update_of_ne hsame _ _).symm.trans hanswer

theorem countVotes_eq (hmatches : v.Matches (marked b a) boot.votes) (hgroup : a.GetGroup = v.gguid)
    (hopen : (b.voters v.members .agree).card < LFG_GROUP_KICK_VOTES_NEEDED ∧
      (b.voters v.members .deny).card < LFG_GROUP_KICK_VOTES_NEEDED) :
    m.countVotes a boot =
      if LFG_GROUP_KICK_VOTES_NEEDED ≤ ((marked b a).voters v.members .agree).card then
        m.closeBoot v.gguid { boot with inProgress := false } a.found true
      else if LFG_GROUP_KICK_VOTES_NEEDED ≤ ((marked b a).voters v.members .deny).card then
        m.closeBoot v.gguid { boot with inProgress := false } a.found false
      else m.setBoot v.gguid boot := by
  have hagree := card_voters_marked v b a .agree
  have hdeny := card_voters_marked v b a .deny
  have hneeded : LFG_GROUP_KICK_VOTES_NEEDED = 3 := rfl
  have hagreeNum : votesNum boot.votes (· = .agree) = ((marked b a).voters v.members .agree).card := by
    rw [hmatches.votesNum]
    simp only [decide_eq_true_eq]
    exact Nat.mod_eq_of_lt (by rw [← Ballot.voters]; omega)
  have hvotesNum : votesNum boot.votes (· ≠ .pending) =
      ((marked b a).voters v.members .agree).card + ((marked b a).voters v.members .deny).card := by
    rw [hmatches.votesNum]
    simp only [decide_eq_true_eq]
    rw [card_answered]
    exact Nat.mod_eq_of_lt (by omega)
  rw [countVotes, hgroup, hagreeNum, hvotesNum]
  by_cases h₁ : LFG_GROUP_KICK_VOTES_NEEDED ≤ ((marked b a).voters v.members .agree).card
  · rw [if_neg (by omega), if_pos h₁, decide_eq_true (by omega)]
  · by_cases h₂ : LFG_GROUP_KICK_VOTES_NEEDED ≤ ((marked b a).voters v.members .deny).card
    · rw [if_neg (by omega), if_neg h₁, if_pos h₂, decide_eq_false (by omega)]
    · simp [h₁, h₂]

/-! ## The run -/

/-- The vote is as the ballot says, and undecided while it is open. -/
structure Sound (v : Vote) (m : LFGMgr) (b : Ballot) : Prop extends v.Agrees m b where
  undecided : v.Undecided b

theorem Sound.of_sameAt {m' : LFGMgr} (h : v.Sound m b) (hsame : SameAt v.gguid m m') : v.Sound m' b where
  ongoing hopen := hsame.boots ▸ h.ongoing hopen
  closed hclosed := hsame.boots.trans (h.closed hclosed)
  kicks := hsame.data ▸ h.kicks
  active := hsame.data ▸ h.active
  victims := hsame.victims.trans h.victims
  undecided := h.undecided

section

variable (h : v.Sound m b) (hopen : b.outcome = none)
include h hopen

theorem Sound.setBoot {b' : Ballot} (hongoing : b'.outcome = none)
    (hvictim : boot.victim = v.victim) (hmatches : v.Matches b' boot.votes) (hundecided : v.Undecided b') :
    v.Sound (m.setBoot v.gguid boot) b' where
  ongoing _ := ⟨boot, by rw [LFGMgr.setBoot, TreeMap.get_insert, if_pos rfl], hvictim, hmatches⟩
  closed hclosed := absurd hongoing hclosed
  kicks := by
    rw [hongoing, ← hopen]
    exact h.kicks
  active := by
    rw [hongoing, ← hopen]
    exact h.active
  victims := by
    rw [hongoing, ← hopen]
    exact h.victims
  undecided := hundecided

theorem Sound.closeBoot (hvictim : boot.victim = v.victim)
    {b' : Ballot} {agreed : Bool} (hclosed : b'.outcome = some (if agreed then .kick a.found else .keep)) :
    v.Sound (m.closeBoot v.gguid boot a.found agreed) b' where
  ongoing hongoing := by
    simp [hclosed] at hongoing
  closed _ := boots_closeBoot m v.gguid boot a.found agreed
  kicks := by
    rw [(groupData_closeBoot m v.gguid boot a.found agreed).1, h.kicks, hopen, hclosed]
    cases agreed <;> rfl
  active := by
    rw [(groupData_closeBoot m v.gguid boot a.found agreed).2, hclosed]
    rfl
  victims := by
    rw [victims_closeBoot m v.gguid boot a.found agreed, h.victims, hopen, hclosed, hvictim]
    cases agreed with
    | false => rfl
    | true => cases a.found <;> rfl
  undecided hongoing := by
    simp [hclosed] at hongoing

theorem Sound.countVotes (hgroup : a.GetGroup = v.gguid)
    (hmem : a.guid ∈ v.members) (hpending : b.answer a.guid = .pending) (hvictim : boot.victim = v.victim)
    (hmatches : v.Matches b boot.votes) :
    v.Sound (m.countVotes a { boot with votes := boot.votes.insert a.guid (if a.accept then .agree else .deny) })
      (v.cast b a) := by
  have hcast : v.cast b a =
      if LFG_GROUP_KICK_VOTES_NEEDED ≤ ((marked b a).voters v.members .agree).card then
        { marked b a with outcome := some (.kick a.found) }
      else if LFG_GROUP_KICK_VOTES_NEEDED ≤ ((marked b a).voters v.members .deny).card then
        { marked b a with outcome := some .keep }
      else marked b a := if_pos ⟨hopen, hgroup, hmem, hpending⟩
  rw [countVotes_eq (hmatches.insert hmem) hgroup (h.undecided hopen), hcast]
  by_cases hagree : LFG_GROUP_KICK_VOTES_NEEDED ≤ ((marked b a).voters v.members .agree).card
  · rw [if_pos hagree, if_pos hagree]
    exact h.closeBoot hopen hvictim rfl
  · rw [if_neg hagree, if_neg hagree]
    by_cases hdeny : LFG_GROUP_KICK_VOTES_NEEDED ≤ ((marked b a).voters v.members .deny).card
    · rw [if_pos hdeny, if_pos hdeny]
      exact h.closeBoot hopen hvictim rfl
    · rw [if_neg hdeny, if_neg hdeny]
      exact h.setBoot hopen hopen hvictim (hmatches.insert hmem) fun _ ↦ ⟨not_le.mp hagree, not_le.mp hdeny⟩

end

/-- **An answer** is counted as it is on the ballot. -/
theorem Sound.UpdateBoot (h : v.Sound m b) (hadmits : v.Admits (m, b) a) : v.Sound (m.UpdateBoot a) (v.cast b a) := by
  by_cases hgroup : a.GetGroup = v.gguid
  · cases houtcome : b.outcome with
    | some outcome =>
      -- the vote is closed
      have hnone := h.closed (by rw [houtcome]; exact Option.some_ne_none _)
      have hcast : v.cast b a = b := if_neg fun hc ↦ Option.some_ne_none outcome (houtcome ▸ hc.1)
      simpa [hcast, LFGMgr.UpdateBoot, (hgroup ▸ v.group), hgroup, hnone] using h
    | none =>
      obtain ⟨boot, hboot, hvictim, hmatches⟩ := h.ongoing houtcome
      have hmem : a.guid ∈ v.members := List.mem_toFinset.mpr (hadmits hgroup ((TreeMap.mem_iff _ _).mpr ⟨boot, hboot⟩))
      have hanswer : boot.votes[a.guid]? = some (b.answer a.guid) := (hmatches a.guid).trans (if_pos hmem)
      have hread : readVotes boot.votes a.guid = boot.votes := if_pos ((TreeMap.mem_iff _ _).mpr ⟨_, hanswer⟩)
      rw [LFGMgr.UpdateBoot, if_neg (hgroup ▸ v.group), hgroup, hboot]
      dsimp only
      rw [hread, hanswer]
      by_cases hpending : b.answer a.guid = .pending
      · rw [if_neg (by rw [hpending]; simp)]
        exact h.countVotes houtcome hgroup hmem hpending hvictim hmatches
      · have hcast : v.cast b a = b := if_neg fun hc ↦ hpending hc.2.2.2
        rw [if_pos (fun hc ↦ hpending (Option.some.inj hc)), hcast]
        exact h.setBoot houtcome houtcome hvictim hmatches h.undecided
  · have hcast : v.cast b a = b := if_neg fun hc ↦ hgroup hc.2.1
    rw [hcast]
    exact h.of_sameAt (sameAt_UpdateBoot hgroup)

theorem sound_opened (v : Vote) :
    v.Sound (v.before.InitBoot v.gguid v.kicker v.victim v.players) (.opened v.kicker v.victim) where
  ongoing _ := by
    refine ⟨_, (TreeMap.get_insert ..).trans (if_pos rfl), rfl, fun guid ↦ ?_⟩
    have hnone : ((v.before.SetVoteKick v.gguid true).BootsStore[v.gguid]?).elim ∅ (·.votes) =
        (∅ : ExtTreeMap ObjectGuid LfgAnswer) := by
      rw [show (v.before.SetVoteKick v.gguid true).BootsStore[v.gguid]? = none from v.idle]
      rfl
    dsimp only
    rw [hnone, askAll, TreeMap.get_insert, TreeMap.get_insert, get_foldl_pending, ExtTreeMap.getElem?_empty]
    simp only [members, List.mem_toFinset, Ballot.opened]
    by_cases hkicker : v.kicker = guid
    · subst hkicker
      simp [v.kicker_mem]
    · rw [if_neg hkicker, if_neg (Ne.symm hkicker)]
      by_cases hvictim : v.victim = guid
      · subst hvictim
        simp [v.victim_mem]
      · simp [hvictim, (Ne.symm hvictim)]
  closed hclosed := absurd rfl hclosed
  kicks := congrArg (·.m_KicksLeft) ((groupData_setGroupData _).trans (if_pos rfl))
  active := congrArg (·.m_VoteKickActive) ((groupData_setGroupData _).trans (if_pos rfl))
  victims := rfl
  undecided _ := by
    have hone (guid : ObjectGuid) (answer : LfgAnswer)
        (h : ∀ g, (Ballot.opened v.kicker v.victim).answer g = answer → g = guid) :
        ((Ballot.opened v.kicker v.victim).voters v.members answer).card < LFG_GROUP_KICK_VOTES_NEEDED := by
      have hsub : (Ballot.opened v.kicker v.victim).voters v.members answer ⊆ {guid} := fun g hg ↦
        Finset.mem_singleton.mpr (h g (Finset.mem_filter.mp hg).2)
      exact Nat.lt_of_le_of_lt (Finset.card_le_card hsub) (by rw [Finset.card_singleton]; decide)
    constructor
    · refine hone v.kicker .agree fun g hg ↦ ?_
      rw [Ballot.opened] at hg
      dsimp only at hg
      split at hg
      · assumption
      · split at hg <;> cases hg
    · refine hone v.victim .deny fun g hg ↦ ?_
      rw [Ballot.opened] at hg
      dsimp only at hg
      split at hg
      · cases hg
      · split at hg
        · assumption
        · cases hg

/-- **The vote is as the ballot says** in every run in which no one answers it who has joined the group since it was
opened. -/
theorem agrees_with_ballot (v : Vote) {s : LFGMgr × Ballot} (h : v.machine.Reaches v.Admits s) : v.Agrees s.1 s.2 := by
  have hsound : v.Sound s.1 s.2 := by
    refine h.invariant (P := fun s ↦ v.Sound s.1 s.2) v.sound_opened fun s a t hs hadmits hnext ↦ ?_
    obtain rfl := Option.some.inj hnext
    exact hs.UpdateBoot hadmits
  exact hsound.toAgrees

/-! ### A group of five -/

/-- A vote in a group of five: 1 wants 2 to leave. -/
def five : Vote where
  before := ⟨∅, ∅, []⟩
  gguid := 100
  kicker := 1
  victim := 2
  players := [1, 2, 3, 4, 5]
  idle := ExtTreeMap.getElem?_empty
  group := by decide
  kicker_mem := by decide
  victim_mem := by decide

instance (v : Vote) (s : LFGMgr × Ballot) (a : Answer) : Decidable (v.Admits s a) := inferInstanceAs (Decidable (_ → _))

/-- 3 answers, and answers once more, and 4 agrees. -/
def fourAgrees : List Answer := [⟨3, 100, true, true⟩, ⟨3, 100, true, false⟩, ⟨4, 100, true, true⟩]

/-- The victim is kicked. -/
theorem agrees_with_ballot_five :
    ∃ s, five.machine.Reaches five.Admits s ∧ five.Agrees s.1 s.2 ∧ s.2.outcome = some (.kick true) := by
  obtain ⟨s, hs, houtcome⟩ := five.machine.exists_reaches five.Admits fourAgrees
    (fun s ↦ s.2.outcome = some (.kick true)) (by decide +kernel)
  exact ⟨s, hs, agrees_with_ballot five hs, houtcome⟩

/-- 6 and 7 have joined the group since, and answer; then 4 agrees. -/
def joinersAnswer : List Answer := [⟨6, 100, true, true⟩, ⟨7, 100, true, true⟩, ⟨4, 100, true, true⟩]

/-- The answers of the two, which are no votes, deny, and the vote is closed when two have agreed. -/
theorem not_agrees_with_ballot :
    ¬ ∀ (v : Vote) (s : LFGMgr × Ballot), v.machine.Reachable s → v.Agrees s.1 s.2 := by
  intro h
  obtain ⟨s, hs, hclosed⟩ := five.machine.exists_reachable joinersAnswer
    (fun s ↦ decide (s.2.outcome = none) && decide (100 ∉ s.1.BootsStore)) (by decide +kernel)
  obtain ⟨hopen, hnone⟩ := Bool.and_eq_true _ _ ▸ hclosed
  obtain ⟨boot, hboot, _⟩ := (h five s hs).ongoing (of_decide_eq_true hopen)
  exact of_decide_eq_true hnone ((TreeMap.mem_iff _ _).mpr ⟨boot, hboot⟩)

end Vote

end Gundrak.Lfg
