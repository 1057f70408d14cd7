import Gundrak.Battlegrounds.BattlegroundQueue

/-!
# The consistency of the battleground queue

A group in the queue is pointed to from one of the lists, from the entries of its players in
`m_QueuedPlayers` and, during an update, from the selection pools.  `Consistent` says that the first
two fit together: every group is in exactly one list and has players, and its players are exactly
those whose entry points to it.

Groups move between lists in three places: a premade group joins the normal queue, a skirmish team
changes sides, and so does a rated arena team.  The last of these goes by the team a group has to know
the list it is in, so the lists of a side must hold nothing but groups of that side as long as they
are not invited; that is `TeamsMatch`.
-/

open Std (ExtTreeMap)

namespace Gundrak

instance : Fintype QueueGroupType where
  elems := {.premade .alliance, .premade .horde, .normal .alliance, .normal .horde, .crossfaction}
  complete j := by
    rcases j with t | t | _
    · cases t <;> simp
    · cases t <;> simp
    · simp

/-- The side a list is for; the mixed list is for both. -/
def QueueGroupType.admits : QueueGroupType → Team → Prop
  | .premade t, team => team = t
  | .normal t, team => team = t
  | .crossfaction, _ => True

namespace BattlegroundQueue

variable {q q' : BattlegroundQueue} {g x : GroupId} {b b' : BracketId} {j k : QueueGroupType}
variable {team : Team} {l : List GroupId}

/-- How often a group occurs in the lists, all taken together. -/
def occurrences (q : BattlegroundQueue) (g : GroupId) : ℕ :=
  ∑ p : BracketId × QueueGroupType, (q.m_QueuedGroups p.1 p.2).count g

/-- The lists, the groups and the entries of the players fit together. -/
structure Consistent (q : BattlegroundQueue) : Prop where
  /-- Every group occurs once, and nothing else occurs. -/
  once : ∀ g, q.occurrences g = if g ∈ q.groups then 1 else 0
  nonempty : ∀ (g : GroupId) (i : GroupQueueInfo), q.groups[g]? = some i → i.Players.Nonempty
  /-- The entry of a player points to the group the player is in. -/
  entry : ∀ (guid : ObjectGuid) (g : GroupId), (q.m_QueuedPlayers[guid]?).map PlayerQueueInfo.GroupInfo = some g ↔
      ∃ i : GroupQueueInfo, q.groups[g]? = some i ∧ guid ∈ i.Players
  lt_next : ∀ g ∈ q.groups, g < q.nextGroup

/-- A group that is not invited has the team its list is for. -/
def TeamsMatch (q : BattlegroundQueue) : Prop :=
  ∀ b j g, g ∈ q.m_QueuedGroups b j → q.isInvited g = false → j.admits (q.group g).Team

/-! ## The lists -/

section

variable (q : BattlegroundQueue)

@[simp]
theorem setList_same (b : BracketId) (j : QueueGroupType)
    (l : List GroupId) : (q.setList b j l).m_QueuedGroups b j = l := by
  simp [setList]

theorem setList_of_ne (l : List GroupId) (h : ¬(b' = b ∧ k = j)) :
    (q.setList b j l).m_QueuedGroups b' k = q.m_QueuedGroups b' k := by
  by_cases hb : b' = b
  · subst hb
    have hk : k ≠ j := fun hk ↦ h ⟨rfl, hk⟩
    simp [setList, hk]
  · simp [setList, hb]

/-- Assigning a list takes the occurrences of the old one away and adds those of the new one. -/
theorem occurrences_setList (b : BracketId) (j : QueueGroupType) (l : List GroupId) (g : GroupId) :
    (q.setList b j l).occurrences g + (q.m_QueuedGroups b j).count g = q.occurrences g + l.count g := by
  have hmem : (b, j) ∈ (Finset.univ : Finset (BracketId × QueueGroupType)) := Finset.mem_univ _
  have hrest : ∑ p ∈ Finset.univ.erase (b, j), ((q.setList b j l).m_QueuedGroups p.1 p.2).count g =
      ∑ p ∈ Finset.univ.erase (b, j), (q.m_QueuedGroups p.1 p.2).count g := by
    refine Finset.sum_congr rfl fun p hp ↦ ?_
    rw [setList_of_ne]
    rintro ⟨hb, hk⟩
    exact Finset.ne_of_mem_erase hp (Prod.ext hb hk)
  rw [occurrences, occurrences, ← Finset.sum_erase_add _ _ hmem, ← Finset.sum_erase_add _ _ hmem, hrest]
  dsimp only
  rw [setList_same]
  omega

theorem count_le_occurrences (b : BracketId) (j : QueueGroupType)
    (g : GroupId) : (q.m_QueuedGroups b j).count g ≤ q.occurrences g :=
  Finset.single_le_sum (f := fun p : BracketId × QueueGroupType ↦ (q.m_QueuedGroups p.1 p.2).count g)
    (fun _ _ ↦ Nat.zero_le _) (Finset.mem_univ (b, j))

end

section

variable (hq : q.Consistent)
include hq

theorem Consistent.occurrences_le (g : GroupId) : q.occurrences g ≤ 1 := by
  rw [hq.once]
  split <;> omega

theorem Consistent.live (h : g ∈ q.m_QueuedGroups b j) : g ∈ q.groups := by
  have hpos := List.count_pos_iff.mpr h
  have hle := count_le_occurrences q b j g
  have honce := hq.once g
  by_contra hg
  rw [if_neg hg] at honce
  omega

theorem Consistent.nodup (b : BracketId) (j : QueueGroupType) : (q.m_QueuedGroups b j).Nodup :=
  List.nodup_iff_count_le_one.mpr fun g ↦
    (count_le_occurrences q b j g).trans (hq.occurrences_le g)

theorem Consistent.unique (h : g ∈ q.m_QueuedGroups b j) (h' : g ∈ q.m_QueuedGroups b' k) : b' = b ∧ k = j := by
  by_contra hne
  have hpos := List.count_pos_iff.mpr h
  have hpos' := List.count_pos_iff.mpr h'
  have hclear := occurrences_setList q b j [] g
  have hleft := count_le_occurrences (q.setList b j []) b' k g
  have hle := hq.occurrences_le g
  rw [setList_of_ne _ _ hne] at hleft
  rw [List.count_nil] at hclear
  omega

theorem Consistent.exists_mem (h : g ∈ q.groups) : ∃ b j, g ∈ q.m_QueuedGroups b j := by
  have honce := hq.once g
  rw [if_pos h, occurrences] at honce
  have hne : ∑ p : BracketId × QueueGroupType, (q.m_QueuedGroups p.1 p.2).count g ≠ 0 := by omega
  obtain ⟨p, -, hp⟩ := Finset.exists_ne_zero_of_sum_ne_zero hne
  exact ⟨p.1, p.2, List.count_pos_iff.mp (Nat.pos_of_ne_zero hp)⟩

end

theorem Consistent.new : BattlegroundQueue.new.Consistent where
  once g := by simp [BattlegroundQueue.new, occurrences]
  nonempty g i h := absurd h (by simp [BattlegroundQueue.new])
  entry guid g := by simp [BattlegroundQueue.new]
  lt_next g h := absurd h (by simp [BattlegroundQueue.new])

theorem TeamsMatch.new : BattlegroundQueue.new.TeamsMatch := fun _ _ _ h ↦ absurd h (by simp [BattlegroundQueue.new])

/-! ## Writing to groups -/

section

variable (q : BattlegroundQueue) (g x : GroupId) (f : GroupQueueInfo → GroupQueueInfo)

theorem getElem?_modifyGroup : (q.modifyGroup g f).groups[x]? = if g = x then (q.groups[g]?).map f else q.groups[x]? :=
  TreeMap.get_modify q.groups g x f

theorem mem_modifyGroup : x ∈ (q.modifyGroup g f).groups ↔ x ∈ q.groups := by
  simp only [ExtTreeMap.mem_iff_isSome_getElem?, getElem?_modifyGroup]
  split
  · next h => rw [Option.isSome_map, h]
  · rfl

end

theorem modifyGroup_congr {f f' : GroupQueueInfo → GroupQueueInfo}
    (h : ∀ i, q.groups[g]? = some i → f i = f' i) : q.modifyGroup g f = q.modifyGroup g f' := by
  have hgroups : q.groups.modify g f = q.groups.modify g f' := by
    refine ExtTreeMap.ext_getElem? fun x ↦ ?_
    rw [TreeMap.get_modify, TreeMap.get_modify]
    split
    · exact Option.map_congr h
    · rfl
  simp [modifyGroup, hgroups]

theorem modifyGroup_modifyGroup (q : BattlegroundQueue) (g : GroupId) (f f' : GroupQueueInfo → GroupQueueInfo) :
    (q.modifyGroup g f).modifyGroup g f' = q.modifyGroup g (f' ∘ f) := by
  have hgroups : (q.groups.modify g f).modify g f' = q.groups.modify g (f' ∘ f) := by
    refine ExtTreeMap.ext_getElem? fun x ↦ ?_
    by_cases hx : g = x
    · subst hx
      simp
    · simp [TreeMap.get_modify, hx]
  simp [modifyGroup, hgroups]

theorem modifyGroup_id (q : BattlegroundQueue) (g : GroupId) : q.modifyGroup g id = q := by
  have hgroups : q.groups.modify g id = q.groups := by
    refine ExtTreeMap.ext_getElem? fun x ↦ ?_
    rw [TreeMap.get_modify]
    split
    · next h =>
      simp [h]
    · rfl
  rw [modifyGroup, hgroups]

theorem Consistent.modifyGroup (hq : q.Consistent) (g : GroupId)
    {f : GroupQueueInfo → GroupQueueInfo} (hf : ∀ i, (f i).Players = i.Players) :
    (q.modifyGroup g f).Consistent := by
  have hplayers : ∀ x : GroupId, ((q.modifyGroup g f).groups[x]?).map GroupQueueInfo.Players =
      (q.groups[x]?).map GroupQueueInfo.Players := by
    intro x
    rw [getElem?_modifyGroup]
    split
    · next h => subst h; simp [Function.comp_def, hf]
    · rfl
  refine ⟨fun x ↦ ?_, fun x i hi ↦ ?_, fun guid x ↦ ?_, fun x hx ↦ ?_⟩
  · simp only [mem_modifyGroup]
    exact hq.once x
  · have h := hplayers x
    rw [hi, Option.map_some] at h
    obtain ⟨i', hi', heq⟩ := Option.map_eq_some_iff.mp h.symm
    exact heq ▸ hq.nonempty x i' hi'
  · have h : (∃ i : GroupQueueInfo, (q.modifyGroup g f).groups[x]? = some i ∧ guid ∈ i.Players) ↔
        ∃ s, ((q.modifyGroup g f).groups[x]?).map GroupQueueInfo.Players = some s ∧ guid ∈ s := by
      simp
    rw [h, hplayers]
    refine (hq.entry guid x).trans ?_
    simp
  · exact hq.lt_next x ((mem_modifyGroup ..).mp hx)

theorem TeamsMatch.modifyGroup (hq : q.TeamsMatch) (g : GroupId) {f : GroupQueueInfo → GroupQueueInfo}
    (hf : (f (q.group g)).IsInvitedToBGInstanceGUID = 0 → ∀ b j, g ∈ q.m_QueuedGroups b j →
      j.admits (f (q.group g)).Team) : (q.modifyGroup g f).TeamsMatch := by
  intro b j x hx hinv
  rw [group_modifyGroup]
  rw [isInvited, group_modifyGroup] at hinv
  split at hinv
  · next h =>
    rw [if_pos h]
    obtain ⟨rfl, -⟩ := h
    exact hf (by simpa using hinv) b j hx
  · next h =>
    rw [if_neg h]
    exact hq b j x hx hinv

theorem Consistent.of_occurrences (hq : q.Consistent) (hplayers : q'.m_QueuedPlayers = q.m_QueuedPlayers)
    (hgroups : q'.groups = q.groups) (hnext : q'.nextGroup = q.nextGroup)
    (hocc : ∀ g, q'.occurrences g = q.occurrences g) : q'.Consistent where
  once g := by rw [hocc, hgroups, hq.once]
  nonempty g i h := hq.nonempty g i (hgroups ▸ h)
  entry guid g := by rw [hplayers, hgroups, hq.entry]
  lt_next g h := hnext ▸ hq.lt_next g (hgroups ▸ h)

/-- Move a group to the front of another list. -/
def move (q : BattlegroundQueue) (b : BracketId) (j k : QueueGroupType) (g : GroupId) :
    BattlegroundQueue :=
  (q.setList b k (g :: q.m_QueuedGroups b k)).setList b j ((q.m_QueuedGroups b j).erase g)

theorem Consistent.move (hq : q.Consistent) (h : g ∈ q.m_QueuedGroups b j) (hjk : j ≠ k) :
    (q.move b j k g).Consistent := by
  refine hq.of_occurrences rfl rfl rfl fun x ↦ ?_
  have hput := occurrences_setList q b k (g :: q.m_QueuedGroups b k) x
  have htake := occurrences_setList (q.setList b k (g :: q.m_QueuedGroups b k)) b j
    ((q.m_QueuedGroups b j).erase g) x
  rw [setList_of_ne q _ fun hc ↦ hjk hc.2] at htake
  rw [BattlegroundQueue.move]
  by_cases hgx : g = x
  · subst hgx
    have hpos := List.count_pos_iff.mpr h
    rw [List.count_cons_self] at hput
    rw [List.count_erase_self] at htake
    omega
  · rw [List.count_cons_of_ne hgx] at hput
    rw [List.count_erase_of_ne (Ne.symm hgx)] at htake
    omega

theorem mem_move_of_ne (q : BattlegroundQueue) (b : BracketId) (j k : QueueGroupType) (hxg : x ≠ g)
    (b' : BracketId) (j' : QueueGroupType) :
    x ∈ (q.move b j k g).m_QueuedGroups b' j' ↔ x ∈ q.m_QueuedGroups b' j' := by
  rw [move]
  by_cases hj : b' = b ∧ j' = j
  · obtain ⟨rfl, rfl⟩ := hj
    rw [setList_same, List.mem_erase_of_ne hxg]
  · rw [setList_of_ne _ _ hj]
    by_cases hk : b' = b ∧ j' = k
    · obtain ⟨rfl, rfl⟩ := hk
      rw [setList_same, List.mem_cons]
      exact or_iff_right hxg
    · rw [setList_of_ne _ _ hk]

theorem Consistent.mem_move_self (hq : q.Consistent) (h : g ∈ q.m_QueuedGroups b j) (hjk : j ≠ k)
    {j' : QueueGroupType} (hg : g ∈ (q.move b j k g).m_QueuedGroups b' j') : b' = b ∧ j' = k := by
  refine (hq.move h hjk).unique ?_ hg
  rw [BattlegroundQueue.move, setList_of_ne _ _ fun hc ↦ hjk hc.2.symm, setList_same]
  simp

theorem TeamsMatch.move (ht : q.TeamsMatch) (hq : q.Consistent) (h : g ∈ q.m_QueuedGroups b j)
    (hjk : j ≠ k) (hk : q.isInvited g = false → k.admits (q.group g).Team) :
    (q.move b j k g).TeamsMatch := by
  intro b' j' x hx hinv
  by_cases hxg : x = g
  · subst hxg
    obtain ⟨rfl, rfl⟩ := hq.mem_move_self h hjk hx
    exact hk hinv
  · exact ht b' j' x ((mem_move_of_ne q b j k hxg b' j').mp hx) hinv

/-! ## Joining, inviting and leaving -/

theorem getElem?_foldl_insert (members : List ObjectGuid) (entry : PlayerQueueInfo)
    (m : ExtTreeMap ObjectGuid PlayerQueueInfo) (guid : ObjectGuid) :
    (members.foldl (fun m guid ↦ m.insert guid entry) m)[guid]? =
      if guid ∈ members then some entry else m[guid]? := by
  induction members generalizing m with
  | nil => rfl
  | cons a members ih =>
    rw [List.foldl_cons, ih, TreeMap.get_insert]
    by_cases hg : guid = a
    · simp [hg]
    · simp [hg, Ne.symm hg]

section AddGroup

variable {config : BattlegroundConfig} {r : JoinRequest}

section

variable (q : BattlegroundQueue) (config : BattlegroundConfig) (r : JoinRequest)

theorem AddGroup_groups (x : GroupId) : (q.AddGroup config r).groups[x]? =
      if q.nextGroup = x then some (r.ginfo config.GetGameTimeMS) else q.groups[x]? :=
  TreeMap.get_insert q.groups q.nextGroup x (r.ginfo config.GetGameTimeMS)

theorem AddGroup_lists : (q.AddGroup config r).m_QueuedGroups =
      (q.setList r.bracketId (r.index config.crossfactionEnabled)
        (q.m_QueuedGroups r.bracketId (r.index config.crossfactionEnabled) ++ [q.nextGroup])).m_QueuedGroups := rfl

end

theorem Consistent.fresh (hq : q.Consistent) : q.nextGroup ∉ q.groups := fun h ↦ absurd (hq.lt_next _ h) (lt_irrefl _)

theorem Consistent.AddGroup (hq : q.Consistent) (hleader : r.leader ∈ r.members)
    (hnew : ∀ guid ∈ r.members, guid ∉ q.m_QueuedPlayers) : (q.AddGroup config r).Consistent := by
  have hfresh : q.groups[q.nextGroup]? = none := ExtTreeMap.getElem?_eq_none hq.fresh
  have hplayers : ∀ guid : ObjectGuid, ((q.AddGroup config r).m_QueuedPlayers[guid]?).map PlayerQueueInfo.GroupInfo =
        if guid ∈ r.members then some q.nextGroup
        else (q.m_QueuedPlayers[guid]?).map PlayerQueueInfo.GroupInfo := by
    intro guid
    simp only [BattlegroundQueue.AddGroup, setList, getElem?_foldl_insert]
    split <;> rfl
  have hmem : ∀ x, x ∈ (q.AddGroup config r).groups ↔ q.nextGroup = x ∨ x ∈ q.groups := by
    intro x
    simp [BattlegroundQueue.AddGroup, setList]
  refine ⟨fun x ↦ ?_, fun x i hi ↦ ?_, fun guid x ↦ ?_, fun x hx ↦ ?_⟩
  · have hput := occurrences_setList q r.bracketId (r.index config.crossfactionEnabled)
      (q.m_QueuedGroups r.bracketId (r.index config.crossfactionEnabled) ++ [q.nextGroup]) x
    have honce := hq.once x
    rw [List.count_append, ← add_assoc, add_right_comm, Nat.add_right_cancel_iff] at hput
    rw [occurrences, AddGroup_lists, ← occurrences, hput]
    simp only [hmem]
    by_cases hx : q.nextGroup = x
    · subst hx
      simp [hq.fresh, honce]
    · simp [hx, honce]
  · rw [AddGroup_groups] at hi
    split at hi
    · obtain rfl := Option.some_inj.mp hi
      exact ⟨r.leader, List.mem_toFinset.mpr hleader⟩
    · exact hq.nonempty x i hi
  · rw [hplayers, AddGroup_groups]
    by_cases hm : guid ∈ r.members
    · have hold : q.m_QueuedPlayers[guid]? = none := ExtTreeMap.getElem?_eq_none (hnew guid hm)
      by_cases hx : q.nextGroup = x
      · simp [hm, hx, JoinRequest.ginfo]
      · have hnone := (hq.entry guid x).not.mp (by simp [hold])
        simpa [hm, hx] using hnone
    · by_cases hx : q.nextGroup = x
      · subst hx
        have hnone := (hq.entry guid q.nextGroup).not.mpr (by simp [hfresh])
        simpa [hm, JoinRequest.ginfo] using hnone
      · simpa [hm, hx] using hq.entry guid x
  · show x < q.nextGroup + 1
    rcases (hmem x).mp hx with rfl | hx
    · exact Nat.lt_succ_self _
    · exact Nat.lt_succ_of_lt (hq.lt_next x hx)

theorem index_admits (r : JoinRequest) (crossfactionEnabled : Bool) : (r.index crossfactionEnabled).admits r.team := by
  rw [JoinRequest.index]
  split
  · trivial
  · split <;> rfl

theorem TeamsMatch.AddGroup (ht : q.TeamsMatch) (hq : q.Consistent) : (q.AddGroup config r).TeamsMatch := by
  intro b j x hx hinv
  have hgroup : (q.AddGroup config r).group x =
      if q.nextGroup = x then r.ginfo config.GetGameTimeMS else q.group x := by
    rw [group, AddGroup_groups]
    split <;> rfl
  rw [isInvited] at hinv
  rw [hgroup] at hinv ⊢
  rw [AddGroup_lists] at hx
  by_cases hb : b = r.bracketId ∧ j = r.index config.crossfactionEnabled
  · obtain ⟨rfl, rfl⟩ := hb
    rw [setList_same, List.mem_append, List.mem_singleton] at hx
    split
    · exact index_admits r _
    · next hne =>
      rw [if_neg hne] at hinv
      exact ht _ _ x (hx.resolve_right (Ne.symm hne)) hinv
  · rw [setList_of_ne _ _ hb] at hx
    have hne : q.nextGroup ≠ x := (hq.lt_next x (hq.live hx)).ne'
    rw [if_neg hne] at hinv ⊢
    exact ht _ _ x hx hinv

end AddGroup

/-- The invitation of a group is one write; the group is invited afterwards. -/
theorem InviteGroupToBG_eq (q : BattlegroundQueue) (config : BattlegroundConfig) (g : GroupId)
    (bg : Battleground) (side : Option Team) :
    ∃ f : GroupQueueInfo → GroupQueueInfo, (∀ i, (f i).Players = i.Players) ∧
      (bg.GetInstanceID ≠ 0 → ∀ i, (f i).IsInvitedToBGInstanceGUID ≠ 0) ∧
      q.InviteGroupToBG config g bg side = q.modifyGroup g f := by
  have hside : ∃ f : GroupQueueInfo → GroupQueueInfo, (∀ i, (f i).Players = i.Players) ∧
      (∀ i, (f i).IsInvitedToBGInstanceGUID = i.IsInvitedToBGInstanceGUID) ∧
      side.elim q (q.setTeam g) = q.modifyGroup g f := by
    cases side with
    | none => exact ⟨id, fun _ ↦ rfl, fun _ ↦ rfl, (modifyGroup_id q g).symm⟩
    | some team => exact ⟨fun i ↦ { i with Team := team }, fun _ ↦ rfl, fun _ ↦ rfl, rfl⟩
  obtain ⟨f, hplayers, hinvited, heq⟩ := hside
  have hinv : (q.modifyGroup g f).isInvited g = q.isInvited g := by
    have h := group_modifyGroup_field (·.IsInvitedToBGInstanceGUID) q g g f hinvited
    rw [isInvited, isInvited, h]
  rw [InviteGroupToBG, heq, hinv]
  refine ⟨fun i ↦ if i.IsInvitedToBGInstanceGUID = 0 then
    { f i with
      IsInvitedToBGInstanceGUID := bg.GetInstanceID
      RemoveInviteTime := config.GetGameTimeMS + inviteAcceptWaitTime } else f i, ?_, ?_, ?_⟩
  · intro i
    dsimp only
    split <;> exact hplayers i
  · intro hbg i
    dsimp only
    split
    · exact hbg
    · next h =>
      rw [hinvited]
      exact h
  · have hiff : ∀ i, q.groups[g]? = some i → (q.isInvited g = false ↔ i.IsInvitedToBGInstanceGUID = 0) := by
      intro i hi
      rw [isInvited, group, hi]
      simp
    split
    · next h =>
      rw [modifyGroup_modifyGroup]
      refine modifyGroup_congr fun i hi ↦ ?_
      rw [if_pos ((hiff i hi).mp (by simpa using h))]
      rfl
    · next h =>
      refine modifyGroup_congr fun i hi ↦ ?_
      rw [if_neg fun h0 ↦ h (by rw [(hiff i hi).mpr h0]; rfl)]

theorem Consistent.InviteGroupToBG (hq : q.Consistent) (config : BattlegroundConfig) (g : GroupId)
    (bg : Battleground) (side : Option Team) :
    (q.InviteGroupToBG config g bg side).Consistent := by
  obtain ⟨f, hplayers, -, heq⟩ := InviteGroupToBG_eq q config g bg side
  rw [heq]
  exact hq.modifyGroup g hplayers

theorem TeamsMatch.InviteGroupToBG (ht : q.TeamsMatch) (config : BattlegroundConfig) (g : GroupId)
    (bg : BattlegroundInstance) (side : Option Team) :
    (q.InviteGroupToBG config g bg.1 side).TeamsMatch := by
  obtain ⟨f, -, hinvited, heq⟩ := InviteGroupToBG_eq q config g bg.1 side
  rw [heq]
  exact ht.modifyGroup g fun h ↦ absurd h (hinvited bg.2 _)

theorem mem_all (j : QueueGroupType) : j ∈ QueueGroupType.all := by
  rcases j with t | t | _
  · cases t <;> simp [QueueGroupType.all]
  · cases t <;> simp [QueueGroupType.all]
  · simp [QueueGroupType.all]

theorem Consistent.findGroup (hq : q.Consistent) (hg : g ∈ q.groups) :
    ∃ b j, q.findGroup g = some (b, j) ∧ g ∈ q.m_QueuedGroups b j := by
  have hsound : ∀ r, q.findGroup g = some r → g ∈ q.m_QueuedGroups r.1 r.2 := by
    intro r hr
    rw [BattlegroundQueue.findGroup, List.findSome?_eq_some_iff] at hr
    obtain ⟨-, b, -, -, hfound, -⟩ := hr
    obtain ⟨j, hj, rfl⟩ := Option.map_eq_some_iff.mp hfound
    simpa using List.find?_some hj
  cases hf : q.findGroup g with
  | some r => exact ⟨r.1, r.2, rfl, hsound r hf⟩
  | none =>
    obtain ⟨b, j, hmem⟩ := hq.exists_mem hg
    rw [BattlegroundQueue.findGroup, List.findSome?_eq_none_iff] at hf
    have hb := hf b (by simp)
    rw [Option.map_eq_none_iff, List.find?_eq_none] at hb
    exact absurd hmem (by simpa using hb j (by simpa using mem_all j))

section Leaving

variable {guid : ObjectGuid} {i : GroupQueueInfo}

theorem leave_groups (q : BattlegroundQueue) (guid : ObjectGuid) (g x : GroupId) : (q.leave guid g).groups[x]? =
      if g = x then (q.groups[g]?).map fun i ↦ { i with Players := i.Players.erase guid }
      else q.groups[x]? :=
  getElem?_modifyGroup q g x fun i ↦ { i with Players := i.Players.erase guid }

theorem mem_leave (q : BattlegroundQueue) (guid : ObjectGuid) (g x : GroupId) :
    x ∈ (q.leave guid g).groups ↔ x ∈ q.groups :=
  mem_modifyGroup q g x fun i ↦ { i with Players := i.Players.erase guid }

section

variable (hq : q.Consistent) (hi : q.groups[g]? = some i) (hguid : guid ∈ i.Players)
include hq hi hguid

theorem Consistent.leave_entry (guid' : ObjectGuid) (x : GroupId) :
    ((q.leave guid g).m_QueuedPlayers[guid']?).map PlayerQueueInfo.GroupInfo = some x ↔
      ∃ i : GroupQueueInfo, (q.leave guid g).groups[x]? = some i ∧ guid' ∈ i.Players := by
  have hentry : (q.m_QueuedPlayers[guid]?).map PlayerQueueInfo.GroupInfo = some g :=
    (hq.entry guid g).mpr ⟨i, hi, hguid⟩
  have hplayers : ((q.leave guid g).m_QueuedPlayers[guid']?).map PlayerQueueInfo.GroupInfo =
      if guid = guid' then none else (q.m_QueuedPlayers[guid']?).map PlayerQueueInfo.GroupInfo := by
    simp only [BattlegroundQueue.leave, TreeMap.get_erase]
    split <;> rfl
  rw [hplayers, leave_groups]
  by_cases hgg : guid = guid'
  · subst hgg
    simp only [if_true, reduceCtorEq, false_iff, not_exists, not_and]
    by_cases hgx : g = x
    · subst hgx
      simp [hi]
    · simp only [hgx, if_false]
      intro i' hi' hmem
      have hother := (hq.entry guid x).mpr ⟨i', hi', hmem⟩
      exact hgx (Option.some_inj.mp (hentry.symm.trans hother))
  · rw [if_neg hgg]
    by_cases hgx : g = x
    · subst hgx
      simp [hi, hq.entry, Ne.symm hgg]
    · rw [if_neg hgx]
      exact hq.entry guid' x

theorem Consistent.leave (hne : i.Players.erase guid ≠ ∅) : (q.leave guid g).Consistent where
  once x := by
    simp only [mem_leave]
    exact hq.once x
  nonempty x i' hi' := by
    rw [leave_groups] at hi'
    split at hi'
    · rw [hi, Option.map_some, Option.some_inj] at hi'
      rw [← hi']
      exact Finset.nonempty_iff_ne_empty.mpr hne
    · exact hq.nonempty x i' hi'
  entry := hq.leave_entry hi hguid
  lt_next x hx := hq.lt_next x ((mem_leave ..).mp hx)

theorem Consistent.deleteGroup (hlast : i.Players.erase guid = ∅) (hmem : g ∈ q.m_QueuedGroups b j) :
    ((q.leave guid g).deleteGroup b j g).Consistent := by
  have hgroups : ∀ x : GroupId, ((q.leave guid g).deleteGroup b j g).groups[x]? =
      if g = x then none else q.groups[x]? := by
    intro x
    show ((q.leave guid g).groups.erase g)[x]? = _
    rw [TreeMap.get_erase, leave_groups]
    split <;> rfl
  refine ⟨fun x ↦ ?_, fun x i' hi' ↦ ?_, fun guid' x ↦ ?_, fun x hx ↦ ?_⟩
  · have htake := occurrences_setList q b j ((q.m_QueuedGroups b j).erase g) x
    have honce := hq.once x
    have hlive : x ∈ ((q.leave guid g).deleteGroup b j g).groups ↔ g ≠ x ∧ x ∈ q.groups := by
      simp only [ExtTreeMap.mem_iff_isSome_getElem?, hgroups]
      split <;> simp_all
    show (q.setList b j ((q.m_QueuedGroups b j).erase g)).occurrences x = _
    simp only [hlive]
    by_cases hgx : g = x
    · subst hgx
      rw [if_pos (hq.live hmem)] at honce
      rw [List.count_erase_self] at htake
      have hpos := List.count_pos_iff.mpr hmem
      simp only [ne_eq, not_true, false_and, if_false]
      omega
    · rw [List.count_erase_of_ne (Ne.symm hgx), Nat.add_right_cancel_iff] at htake
      simp [htake, honce, hgx]
  · rw [hgroups] at hi'
    split at hi'
    · exact absurd hi' (by simp)
    · exact hq.nonempty x i' hi'
  · have hleft := hq.leave_entry hi hguid guid' x
    rw [leave_groups] at hleft
    rw [hgroups]
    refine hleft.trans ?_
    by_cases hgx : g = x
    · subst hgx
      simp [hi, hlast]
    · simp [hgx]
  · have hx' : x ∈ q.groups := by
      rw [ExtTreeMap.mem_iff_isSome_getElem?, hgroups] at hx
      split at hx
      · exact absurd hx (by simp)
      · exact ExtTreeMap.mem_iff_isSome_getElem?.mpr hx
    exact hq.lt_next x hx'

end

theorem TeamsMatch.leave (ht : q.TeamsMatch) (guid : ObjectGuid) (g : GroupId) : (q.leave guid g).TeamsMatch := by
  intro b j x hx hinv
  have hteam := group_modifyGroup_field (·.Team) q g x
    (fun i ↦ { i with Players := i.Players.erase guid }) fun _ ↦ rfl
  have hinvited := group_modifyGroup_field (·.IsInvitedToBGInstanceGUID) q g x
    (fun i ↦ { i with Players := i.Players.erase guid }) fun _ ↦ rfl
  have hinv' : q.isInvited x = false := by
    rw [isInvited, ← hinvited]
    exact hinv
  show j.admits ((q.modifyGroup g fun i ↦ { i with Players := i.Players.erase guid }).group x).Team
  rw [hteam]
  exact ht b j x hx hinv'

theorem TeamsMatch.deleteGroup (ht : q.TeamsMatch) (hnodup : (q.m_QueuedGroups b j).Nodup)
    (hunique : ∀ b' k, g ∈ q.m_QueuedGroups b' k → b' = b ∧ k = j) :
    (q.deleteGroup b j g).TeamsMatch := by
  intro b' k x hx hinv
  have hx' : x ∈ q.m_QueuedGroups b' k ∧ x ≠ g := by
    change x ∈ (q.setList b j ((q.m_QueuedGroups b j).erase g)).m_QueuedGroups b' k at hx
    by_cases hb : b' = b ∧ k = j
    · obtain ⟨rfl, rfl⟩ := hb
      rw [setList_same] at hx
      exact ⟨List.mem_of_mem_erase hx, fun hxg ↦ hnodup.not_mem_erase (hxg ▸ hx)⟩
    · rw [setList_of_ne _ _ hb] at hx
      exact ⟨hx, fun hxg ↦ hb (hunique b' k (hxg ▸ hx))⟩
  have hgroup : (q.deleteGroup b j g).group x = q.group x := by
    show ((q.groups.erase g)[x]?).getD default = _
    rw [TreeMap.get_erase, if_neg (Ne.symm hx'.2), group]
  rw [isInvited, hgroup] at hinv
  rw [hgroup]
  exact ht b' k x hx'.1 hinv

theorem Consistent.group_of_entry (hq : q.Consistent) {entry : PlayerQueueInfo}
    (h : q.m_QueuedPlayers[guid]? = some entry) :
    ∃ i : GroupQueueInfo, q.groups[entry.GroupInfo]? = some i ∧ guid ∈ i.Players :=
  (hq.entry guid entry.GroupInfo).mp (by rw [h, Option.map_some])

theorem removePlayerAux_consistent (fuel : ℕ) (hq : q.Consistent) (ht : q.TeamsMatch) :
    (removePlayerAux fuel q guid).Consistent ∧ (removePlayerAux fuel q guid).TeamsMatch := by
  induction fuel generalizing q guid with
  | zero => exact ⟨hq, ht⟩
  | succ fuel ih =>
    rw [removePlayerAux]
    split
    · exact ⟨hq, ht⟩
    · next entry hentry =>
      obtain ⟨i, hi, hguid⟩ := hq.group_of_entry hentry
      obtain ⟨b, j, hfound, hmem⟩ := hq.findGroup ((TreeMap.mem_iff ..).mpr ⟨i, hi⟩)
      have hplayers : ((q.leave guid entry.GroupInfo).group entry.GroupInfo).Players = i.Players.erase guid := by
        simp [group, leave_groups, hi]
      dsimp only
      rw [hfound]
      dsimp only
      split
      · next hempty =>
        rw [hplayers] at hempty
        refine ⟨hq.deleteGroup hi hguid hempty hmem, (ht.leave guid _).deleteGroup (hq.nodup b j) ?_⟩
        exact fun b' k hk ↦ hq.unique hmem hk
      · next hne =>
        rw [hplayers] at hne
        have hleft := hq.leave hi hguid hne
        have hteams := ht.leave guid entry.GroupInfo
        split
        · split
          · exact ih hleft hteams
          · exact ⟨hleft, hteams⟩
        · exact ⟨hleft, hteams⟩

/-- The recursion ends with the players of the queue: more fuel than there are players changes
nothing. -/
theorem removePlayerAux_fuel (fuel fuel' : ℕ) (h : q.m_QueuedPlayers.size ≤ fuel)
    (h' : q.m_QueuedPlayers.size ≤ fuel') :
    removePlayerAux fuel q guid = removePlayerAux fuel' q guid := by
  induction fuel generalizing q guid fuel' with
  | zero =>
    cases fuel' <;> simp [removePlayerAux, TreeMap.get_of_size_eq_zero (Nat.le_zero.mp h)]
  | succ fuel ih =>
    cases fuel' with
    | zero => rw [removePlayerAux, removePlayerAux, TreeMap.get_of_size_eq_zero (Nat.le_zero.mp h')]
    | succ fuel' =>
      rw [removePlayerAux, removePlayerAux]
      split
      · rfl
      · next entry hentry =>
        have hsize := TreeMap.size_erase_of_mem ((TreeMap.mem_iff ..).mpr ⟨entry, hentry⟩)
        have hleft : (q.leave guid entry.GroupInfo).m_QueuedPlayers.size + 1 = q.m_QueuedPlayers.size := hsize
        dsimp only
        split
        · rfl
        · split
          · rfl
          · split
            · split
              · exact ih fuel' (by omega) (by omega)
              · rfl
            · rfl

end Leaving

end BattlegroundQueue

end Gundrak
