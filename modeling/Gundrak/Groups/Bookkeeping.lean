import Gundrak.Groups.SubGroups

/-!
# Slots, counters and the leader of a group

When the leader of a group leaves, the next leader is the first member who is connected.  If nobody is, the
group keeps a leader who is no member any more, and it is only disbanded because nobody has a reference to
it: references and slots are kept up to date separately, and here they have to agree.  They do as long as
every reference to the group belongs to somebody with a slot (`Sound`).

There is one way to lose this.  A battleground group that a player leaves gives him his original group back,
and if that is the group he leaves, he is linked to it again.  This happens to somebody whom a second such
group has taken over, and the first one may then live on with a leader who has left.

**`bookkeeping_of_reaches`** is about runs without this, in which nobody is added to a full group that is no
raid: the counters are right and at most five, the leader is a member, and if only players are added who
are not in the group, no guid has two slots.  **`not_bookkeeping`** has one run for each of the two
conditions that is not.
-/

namespace Gundrak.Grouping

variable {p : Player} {players : List Player} {g : Group} {w w' : World} {guid guid' : ObjectGuid}
  {group group' : ℕ} {b : Bool}

/-! ## References

What joining and leaving does to the references to one group. -/

namespace Player

/-- The player has a reference to a group. -/
def Linked (p : Player) (group : ℕ) : Prop := p.m_group = some group ∨ p.m_originalGroup = some group

theorem references_eq_zero_iff : p.references group = 0 ↔ ¬ p.Linked group := by
  by_cases h : p.m_group = some group <;> by_cases h' : p.m_originalGroup = some group <;>
    simp [references, Linked, h, h']

@[simp] theorem join_guid : (p.join group b).guid = p.guid := by
  unfold join
  split
  · split <;> rfl
  · rfl

@[simp] theorem leave_guid : (p.leave group b).guid = p.guid := by
  unfold leave
  split
  · rfl
  · split <;> rfl

@[simp] theorem delinkMember_guid : (p.DelinkMember group).guid = p.guid := by
  unfold DelinkMember
  split
  · rfl
  · split <;> rfl

@[simp] theorem unlink_guid : (p.unlink group b).guid = p.guid := by
  unfold unlink
  split <;> simp

theorem linked_setBattlegroundOrBattlefieldRaid (h : (p.SetBattlegroundOrBattlefieldRaid group).Linked group') :
    p.Linked group' ∨ group = group' := by
  rcases h with h | h
  · exact .inr (Option.some.inj h)
  · exact .inl (.inl h)

/-- Joining links a player to the group it joins, and to no other. -/
theorem linked_join (h : (p.join group b).Linked group') : p.Linked group' ∨ group = group' := by
  unfold join at h
  split at h
  · split at h
    · exact linked_setBattlegroundOrBattlefieldRaid h
    · rcases h with h | h
      · exact .inl (.inl h)
      · exact .inr (Option.some.inj h)
  · rcases h with h | h
    · exact .inr (Option.some.inj h)
    · exact .inl (.inr h)

theorem linked_leave (h : (p.leave group b).Linked group') : p.Linked group' := by
  unfold leave at h
  split at h
  · rcases h with h | h
    · exact .inr h
    · exact nomatch h
  · split at h
    · rcases h with h | h
      · exact .inl h
      · exact nomatch h
    · rcases h with h | h
      · exact nomatch h
      · exact .inr h

theorem linked_delinkMember (h : (p.DelinkMember group).Linked group') : p.Linked group' := by
  unfold DelinkMember at h
  split at h
  · rcases h with h | h
    · exact nomatch h
    · exact .inr h
  · split at h
    · rcases h with h | h
      · exact .inl h
      · exact nomatch h
    · exact h

theorem linked_unlink (h : (p.unlink group b).Linked group') : p.Linked group' := by
  unfold unlink at h
  split at h
  · exact linked_leave h
  · exact linked_leave (linked_delinkMember h)

theorem linked_clearReferences (h : (p.clearReferences group).Linked group') : p.Linked group' := by
  rcases h with h | h
  · exact .inl (Option.ite_none_left_eq_some.mp h).2
  · exact .inr (Option.ite_none_left_eq_some.mp h).2

/-- A group of a battleground or battlefield unlinks a player, unless it is his original group. -/
theorem not_linked_leave (h : p.m_originalGroup ≠ some group) : ¬ (p.leave group true).Linked group := by
  rintro (h' | h')
  · exact h h'
  · exact nomatch h'

/-- Another group drops the reference that `leave` leaves. -/
theorem not_linked_delinkMember : ¬ ((p.leave group false).DelinkMember group).Linked group := by
  unfold leave DelinkMember
  by_cases ho : p.m_originalGroup = some group <;> by_cases hg : p.m_group = some group <;>
    simp [SetGroup, SetOriginalGroup, Linked, ho, hg]

theorem not_linked_unlink (h : b = true → p.m_originalGroup ≠ some group) : ¬ (p.unlink group b).Linked group := by
  unfold unlink
  split
  · rename_i hb
    exact not_linked_leave (h hb)
  · exact not_linked_delinkMember

end Player

theorem mem_update {f : Player → Player} {q : Player} (h : q ∈ update players guid f) :
    ∃ p ∈ players, p.guid = guid ∧ q = f p ∨ p.guid ≠ guid ∧ q = p := by
  obtain ⟨p, hp, rfl⟩ := List.mem_map.mp h
  by_cases hg : p.guid = guid
  · exact ⟨p, hp, .inl ⟨hg, if_pos hg⟩⟩
  · exact ⟨p, hp, .inr ⟨hg, if_neg hg⟩⟩

theorem findConnectedPlayer_guid (h : FindConnectedPlayer players guid = some p) : p.guid = guid := by
  have := List.find?_some h
  simpa using this

/-! ## Members -/

namespace Group

theorem findSlot_guid {slot : MemberSlot} (h : g.m_memberSlots.find? (·.guid = guid) = some slot) :
    slot.guid = guid := by
  have := List.find?_some h
  simpa using this

theorem isMember_iff : g.IsMember guid ↔ guid ∈ g.m_memberSlots.map MemberSlot.guid := by
  simp [IsMember]

theorem isMember_pushSlot {subGroup : UInt8} :
    (g.pushSlot guid subGroup).IsMember guid' ↔ g.IsMember guid' ∨ guid' = guid := by
  simp [isMember_iff, pushSlot, SubGroupCounterIncrease]

/-- Moving a member to another subgroup leaves the guids of the slots as they are. -/
theorem guids_changeMembersGroup (into : UInt8) : (g.ChangeMembersGroup guid into).m_memberSlots.map MemberSlot.guid =
      g.m_memberSlots.map MemberSlot.guid := by
  unfold ChangeMembersGroup
  split
  · rfl
  · split
    · rfl
    · split
      · rfl
      · exact map_modify (f := fun slot : MemberSlot ↦ { slot with group := into }) (fun _ ↦ rfl) _

theorem m_guid_changeMembersGroup (g : Group) (guid : ObjectGuid) (into : UInt8) :
    (g.ChangeMembersGroup guid into).m_guid = g.m_guid ∧
      (g.ChangeMembersGroup guid into).m_leaderGuid = g.m_leaderGuid := by
  unfold ChangeMembersGroup
  split
  · exact ⟨rfl, rfl⟩
  · split
    · exact ⟨rfl, rfl⟩
    · split <;> exact ⟨rfl, rfl⟩

/-- Nobody else loses the slot when the slot of one guid is taken away. -/
theorem isMember_eraseSlot (h : g.IsMember guid') (hne : guid' ≠ guid) : (g.eraseSlot guid).IsMember guid' := by
  obtain ⟨-, heq⟩ | ⟨j, slot, hslot, hguid, heq⟩ := eraseSlot_cases g guid
  · rwa [heq]
  rw [isMember_iff] at h ⊢
  obtain ⟨s, hs, rfl⟩ := List.mem_map.mp h
  obtain ⟨hj, rfl⟩ := List.getElem?_eq_some_iff.mp hslot
  rcases List.mem_cons.mp ((List.getElem_cons_eraseIdx_perm hj).mem_iff.mpr hs) with rfl | hs
  · exact absurd hguid hne
  · rw [heq]
    exact List.mem_map_of_mem hs

theorem eraseSlot_fields (g : Group) (guid : ObjectGuid) : (g.eraseSlot guid).m_guid = g.m_guid ∧
    (g.eraseSlot guid).m_leaderGuid = g.m_leaderGuid := by
  obtain ⟨-, heq⟩ | ⟨_, _, -, -, heq⟩ := eraseSlot_cases g guid <;> rw [heq] <;>
    exact ⟨rfl, rfl⟩

/-- A change of the leader is only that, and the new leader is a connected member. -/
theorem changeLeader_cases (g : Group) (players : List Player) (guid : ObjectGuid) : g.ChangeLeader players guid = g ∨
      g.IsMember guid ∧ g.ChangeLeader players guid = { g with m_leaderGuid := guid } := by
  unfold ChangeLeader
  split
  · exact .inl rfl
  rename_i slot hslot
  split
  · exact .inl rfl
  rename_i newLeader hfound
  right
  have hguid : slot.guid = guid := findSlot_guid hslot
  have hleader : newLeader.guid = slot.guid := findConnectedPlayer_guid hfound
  refine ⟨isMember_iff.mpr ?_, by rw [hleader, hguid]⟩
  exact List.mem_map.mpr ⟨slot, List.mem_of_find?_eq_some hslot, hguid⟩

/-- The member that `pickLeader` finds becomes the leader; it finds one if any member is connected. -/
theorem pickLeader_cases (g : Group) (players : List Player) :
    (∃ guid, g.IsMember guid ∧ g.pickLeader players = { g with m_leaderGuid := guid }) ∨
      g.pickLeader players = g ∧ ∀ guid, g.IsMember guid → FindConnectedPlayer players guid = none := by
  unfold pickLeader
  split
  · rename_i hnone
    refine .inr ⟨rfl, fun guid hguid ↦ ?_⟩
    obtain ⟨slot, hslot, rfl⟩ := List.mem_map.mp (isMember_iff.mp hguid)
    simpa using List.find?_eq_none.mp hnone slot hslot
  · rename_i slot hslot
    left
    have hmem := List.mem_of_find?_eq_some hslot
    have hsome := List.find?_some hslot
    obtain ⟨newLeader, hfound⟩ := Option.isSome_iff_exists.mp hsome
    have hleader : newLeader.guid = slot.guid := findConnectedPlayer_guid hfound
    obtain ⟨first, hfirst⟩ : ∃ first, g.m_memberSlots.find? (·.guid = slot.guid) = some first :=
      Option.isSome_iff_exists.mp (List.find?_isSome.mpr ⟨slot, hmem, decide_eq_true rfl⟩)
    have hguid : first.guid = slot.guid := findSlot_guid hfirst
    refine ⟨slot.guid, isMember_iff.mpr (List.mem_map_of_mem hmem), ?_⟩
    simp only [ChangeLeader, hfirst, hguid, hfound, hleader]

end Group

/-! ## The invariant -/

/-- A group with players around it, where references and slots agree. -/
structure Sound (players : List Player) (g : Group) : Prop where
  tidy : g.Tidy
  leader : g.IsMember g.m_leaderGuid
  linked : ∀ p ∈ players, p.Linked g.m_guid → g.IsMember p.guid

namespace Sound

variable {players' : List Player} {g' : Group}

section

variable (h : Sound players g)
include h

/-- Players may change as long as no reference to the group gets to somebody without a slot. -/
theorem of_players (hp : ∀ q ∈ players', q.Linked g.m_guid →
    g.IsMember q.guid ∨ ∃ p ∈ players, p.guid = q.guid ∧ p.Linked g.m_guid) :
    Sound players' g where
  tidy := h.tidy
  leader := h.leader
  linked := fun q hq hl ↦ by
    rcases hp q hq hl with hmem | ⟨p, hp, hguid, hlinked⟩
    · exact hmem
    · rw [← hguid]
      exact h.linked p hp hlinked

/-- The player of one guid may change in any way that links him to the group only if he has a slot. -/
theorem of_update {f : Player → Player} (hguid : ∀ p, (f p).guid = p.guid)
    (hf : ∀ p, (f p).Linked g.m_guid → p.Linked g.m_guid ∨ g.IsMember guid) :
    Sound (update players guid f) g := by
  refine h.of_players fun q hq hl ↦ ?_
  obtain ⟨p, hp, ⟨hp', rfl⟩ | ⟨_, rfl⟩⟩ := mem_update hq
  · rcases hf p hl with hl | hmem
    · exact .inr ⟨p, hp, (hguid p).symm, hl⟩
    · rw [hguid, hp']
      exact .inl hmem
  · exact .inr ⟨q, hp, rfl, hl⟩

/-- The group may change as long as nobody loses the slot and the leader is a member. -/
theorem of_group (ht : g'.Tidy) (hguid : g'.m_guid = g.m_guid)
    (hmem : ∀ guid, g.IsMember guid → g'.IsMember guid) (hleader : g'.IsMember g'.m_leaderGuid) :
    Sound players g' where
  tidy := ht
  leader := hleader
  linked := fun p hp hl ↦ hmem p.guid (h.linked p hp (hguid ▸ hl))

theorem addMember (hfull : g.isRaidGroup ∨ ¬ g.IsFull) {subGroup : UInt8} (hfree : g.freeSubGroup = some subGroup) :
    Sound (update players guid (·.join g.m_guid g.isBGOrBFGroup)) (g.pushSlot guid subGroup) := by
  have hpush : Sound players (g.pushSlot guid subGroup) := h.of_group (tidy_pushSlot h.tidy hfull hfree) rfl
      (fun _ hmem ↦ Group.isMember_pushSlot.mpr (.inl hmem))
      (Group.isMember_pushSlot.mpr (.inl h.leader))
  refine hpush.of_update (fun _ ↦ Player.join_guid) fun p hl ↦ ?_
  rcases Player.linked_join hl with hl | _
  · exact .inl hl
  · exact .inr (Group.isMember_pushSlot.mpr (.inr rfl))

theorem changeMembersGroup {into : UInt8} (hlt : into.toNat < MAX_RAID_SUBGROUPS) (hfree : g.HasFreeSlotSubGroup into) :
    Sound players (g.ChangeMembersGroup guid into) := by
  have hmem : ∀ guid', (g.ChangeMembersGroup guid into).IsMember guid' ↔ g.IsMember guid' := by
    intro guid'
    simp [Group.isMember_iff, Group.guids_changeMembersGroup]
  obtain ⟨hguid, hleader⟩ := Group.m_guid_changeMembersGroup g guid into
  refine h.of_group (tidy_changeMembersGroup h.tidy hlt hfree) hguid (fun _ ↦ (hmem _).mpr) ?_
  rw [hleader]
  exact (hmem _).mpr h.leader

theorem withLeader (hmem : g.IsMember guid) : Sound players { g with m_leaderGuid := guid } :=
  h.of_group ⟨h.tidy.placed, h.tidy.small, h.tidy.counted, h.tidy.party, h.tidy.raid⟩ rfl
    (fun _ ↦ id) hmem

theorem changeLeader : Sound players (g.ChangeLeader players guid) := by
  obtain heq | ⟨hmem, heq⟩ := Group.changeLeader_cases g players guid
  · rwa [heq]
  · rw [heq]
    exact h.withLeader hmem

end

/-! ### Removing a member -/

theorem getSize_eq_zero (h : ∀ p ∈ players, ¬ p.Linked g.m_guid) : g.getSize players = 0 := by
  refine List.sum_eq_zero fun n hn ↦ ?_
  obtain ⟨p, hp, rfl⟩ := List.mem_map.mp hn
  exact Player.references_eq_zero_iff.mpr (h p hp)

/-- Whoever is still linked after a member is unlinked is another member. -/
theorem linked_update_unlink (h : Sound players g)
    (horiginal : g.isBGOrBFGroup → ∀ p ∈ players, p.guid = guid → p.m_originalGroup ≠ some g.m_guid)
    {q : Player} (hq : q ∈ update players guid (·.unlink g.m_guid g.isBGOrBFGroup))
    (hl : q.Linked g.m_guid) : q.guid ≠ guid ∧ g.IsMember q.guid := by
  obtain ⟨p, hp, ⟨hguid, rfl⟩ | ⟨hne, rfl⟩⟩ := mem_update hq
  · exact absurd hl (Player.not_linked_unlink fun hb ↦ horiginal hb p hp hguid)
  · exact ⟨hne, h.linked q hp hl⟩

/-- A group that somebody has a reference to is kept by the removal of a member. -/
theorem dropMember (h : Sound players g) (hl : ∀ q ∈ players', q.Linked g.m_guid → q.guid ≠ guid ∧ g.IsMember q.guid)
    (hsize : (g.dropMember players' guid).getSize players' ≠ 0) :
    Sound players' (g.dropMember players' guid) := by
  obtain ⟨hm_guid, hleader⟩ := Group.eraseSlot_fields g guid
  have ht : (g.eraseSlot guid).Tidy := tidy_eraseSlot h.tidy
  have hlinked : ∀ q ∈ players', q.Linked (g.eraseSlot guid).m_guid → (g.eraseSlot guid).IsMember q.guid := by
    intro q hq hql
    rw [hm_guid] at hql
    obtain ⟨hne, hmem⟩ := hl q hq hql
    exact Group.isMember_eraseSlot hmem hne
  unfold Group.dropMember at hsize ⊢
  by_cases heq : (g.eraseSlot guid).m_leaderGuid = guid
  · simp only [if_pos heq] at hsize ⊢
    obtain ⟨leader, hmem, hpick⟩ | ⟨hpick, hnone⟩ := Group.pickLeader_cases (g.eraseSlot guid) players'
    · rw [hpick]
      exact ⟨⟨ht.placed, ht.small, ht.counted, ht.party, ht.raid⟩, hmem, hlinked⟩
    · -- nobody is connected, so nobody has a reference
      rw [hpick] at hsize
      refine absurd (getSize_eq_zero fun q hq hql ↦ ?_) hsize
      have := List.find?_eq_none.mp (hnone q.guid (hlinked q hq hql)) q hq
      exact this (decide_eq_true rfl)
  · simp only [if_neg heq]
    refine ⟨ht, ?_, hlinked⟩
    rw [hleader] at heq ⊢
    exact Group.isMember_eraseSlot h.leader heq

theorem removeMember_cases {method : RemoveMethod} {inDungeon : Bool}
    (h : (w.RemoveMember g guid method inDungeon).1.group = some g') :
    (w.RemoveMember g guid method inDungeon).1 = w ∨
      ∃ players', players' = update w.players guid (·.unlink g.m_guid g.isBGOrBFGroup) ∧
        (w.RemoveMember g guid method inDungeon).1 = ⟨players', some (g.dropMember players' guid)⟩ ∧
        (g.dropMember players' guid).getSize players' ≠ 0 := by
  unfold World.RemoveMember at h ⊢
  generalize (if g.isBGGroup || g.isLFGGroup || g.isBFGroup then 1 else 2) = least at h ⊢
  split at h
  · rename_i hkick
    exact .inl (by rw [if_pos hkick])
  rename_i hkick
  rw [if_neg hkick]
  split at h
  · rename_i hmany
    rw [if_pos hmany]
    dsimp only at h ⊢
    generalize hg : g.dropMember (update w.players guid (·.unlink g.m_guid g.isBGOrBFGroup)) guid = gd
      at h ⊢
    have hpos : 0 < (if gd.isLFGGroup || gd.isBGGroup then 1 else 2) := by split <;> decide
    generalize (if gd.isLFGGroup || gd.isBGGroup then 1 else 2) = online at h hpos ⊢
    split at h
    · exact nomatch h
    rename_i halone
    rw [if_neg halone]
    split at h
    · exact nomatch h
    rename_i hsize
    rw [if_neg hsize]
    refine .inr ⟨_, rfl, by rw [hg], ?_⟩
    rw [hg]
    omega
  · exact nomatch h

end Sound

/-! ## Runs -/

/-- What the callers of a group see to. -/
def Admitted (w : World) : Call → Prop
  | .AddMember _ => ∀ g ∈ w.group, g.isRaidGroup ∨ ¬ g.IsFull
  | .ChangeMembersGroup _ group => ∀ g ∈ w.group, group.toNat < MAX_RAID_SUBGROUPS ∧ g.HasFreeSlotSubGroup group
  | .RemoveMember guid _ _ => ∀ g ∈ w.group, g.isBGOrBFGroup →
    ∀ p ∈ w.players, p.guid = guid → p.m_originalGroup ≠ some g.m_guid
  | _ => True

/-- Callers only add players that are not in the group. -/
def AddsNew (w : World) : Call → Prop
  | .AddMember player => ∀ g ∈ w.group, ¬ g.IsMember player
  | _ => True

theorem sound_create (hfresh : ∀ p ∈ w.players, p.references group = 0) {lfg bg bf : Bool}
    (hg : (w.Create group guid lfg bg bf).1.group = some g) (hnone : w.group = none) :
    Sound (w.Create group guid lfg bg bf).1.players g := by
  unfold World.Create World.AddMember at hg ⊢
  have ht := tidy_created group guid lfg bg bf
  generalize hcreated : World.created group guid lfg bg bf = g' at hg ht ⊢
  cases hfree : g'.freeSubGroup with
  | none =>
    rw [hfree, hnone] at hg
    exact nomatch hg
  | some subGroup =>
    rw [hfree] at hg
    obtain rfl := Option.some.inj hg
    have hm : g'.m_guid = group ∧ g'.m_leaderGuid = guid ∧ g'.m_memberSlots = [] := by
      rw [← hcreated, World.created]
      split <;> exact ⟨rfl, rfl, rfl⟩
    have hfull : g'.isRaidGroup ∨ ¬ g'.IsFull := by
      by_cases hraid : g'.isRaidGroup
      · exact .inl hraid
      · right
        simp [Group.IsFull, hraid, hm.2.2, MAXGROUPSIZE]
    refine ⟨tidy_pushSlot ht hfull hfree, Group.isMember_pushSlot.mpr (.inr hm.2.1), ?_⟩
    intro q hq hl
    obtain ⟨p, hp, ⟨hguid, rfl⟩ | ⟨_, rfl⟩⟩ := mem_update hq
    · rw [Player.join_guid, hguid]
      exact Group.isMember_pushSlot.mpr (.inr rfl)
    · exact absurd (hm.1 ▸ hl) (Player.references_eq_zero_iff.mp (hfresh q hp))

/-- **One call keeps slots and references in agreement.** -/
theorem sound_next (h : ∀ g, w.group = some g → Sound w.players g) {call : Call}
    (ha : Admitted w call) (hn : w.next call = some w') (hg : w'.group = some g) :
    Sound w'.players g := by
  cases call with
  | Create m_guid leader lfg bg bf =>
    obtain ⟨⟨hnone, hfresh, -⟩, h'⟩ := Option.ite_none_right_eq_some.mp hn
    rw [← Option.some.inj h'] at hg ⊢
    exact sound_create hfresh hg hnone
  | AddMember player =>
    obtain ⟨g₀, hg₀, hn⟩ := Option.bind_eq_some_iff.mp hn
    obtain ⟨-, h'⟩ := Option.ite_none_right_eq_some.mp hn
    rw [← Option.some.inj h', World.AddMember] at hg ⊢
    cases hfree : g₀.freeSubGroup with
    | none =>
      rw [hfree] at hg
      exact h g hg
    | some subGroup =>
      rw [hfree] at hg
      obtain rfl := Option.some.inj hg
      exact (h g₀ hg₀).addMember (ha g₀ hg₀) hfree
  | ConvertToRaid =>
    obtain ⟨g₀, hg₀, rfl⟩ := Option.map_eq_some_iff.mp hn
    obtain rfl := Option.some.inj hg
    have hs := h g₀ hg₀
    exact hs.of_group (tidy_convertToRaid hs.tidy) rfl (fun _ ↦ id) hs.leader
  | ConvertToLFG =>
    obtain ⟨g₀, hg₀, rfl⟩ := Option.map_eq_some_iff.mp hn
    obtain rfl := Option.some.inj hg
    have hs := h g₀ hg₀
    have ht := hs.tidy
    exact hs.of_group ⟨ht.placed, ht.small, ht.counted, ht.party, ht.raid⟩ rfl (fun _ ↦ id) hs.leader
  | ChangeMembersGroup guid into =>
    obtain ⟨g₀, hg₀, rfl⟩ := Option.map_eq_some_iff.mp hn
    obtain rfl := Option.some.inj hg
    obtain ⟨hlt, hfree⟩ := ha g₀ hg₀
    exact (h g₀ hg₀).changeMembersGroup hlt hfree
  | RemoveMember guid method inDungeon =>
    obtain ⟨g₀, hg₀, rfl⟩ := Option.map_eq_some_iff.mp hn
    obtain heq | ⟨players', rfl, heq, hsize⟩ := Sound.removeMember_cases hg
    · rw [heq] at hg ⊢
      exact h g hg
    · rw [heq] at hg ⊢
      obtain rfl := Option.some.inj hg
      have hs := h g₀ hg₀
      exact hs.dropMember (fun _ ↦ hs.linked_update_unlink (ha g₀ hg₀)) hsize
  | ChangeLeader guid =>
    obtain ⟨g₀, hg₀, rfl⟩ := Option.map_eq_some_iff.mp hn
    obtain rfl := Option.some.inj hg
    exact (h g₀ hg₀).changeLeader
  | Disband =>
    obtain ⟨g₀, hg₀, rfl⟩ := Option.map_eq_some_iff.mp hn
    exact nomatch hg
  | Connect guid stored =>
    obtain ⟨⟨-, hstored⟩, h'⟩ := Option.ite_none_right_eq_some.mp hn
    rw [← Option.some.inj h'] at hg ⊢
    refine (h g hg).of_players fun q hq hl ↦ ?_
    rcases List.mem_append.mp hq with hq | hq
    · exact .inr ⟨q, hq, rfl, hl⟩
    · rw [List.mem_singleton.mp hq] at hl ⊢
      rcases hl with hl | hl
      · exact .inl (hstored g hg hl).2
      · exact nomatch hl
  | Disconnect guid =>
    rw [← Option.some.inj hn] at hg ⊢
    exact (h g hg).of_players fun q hq hl ↦ .inr ⟨q, (List.mem_filter.mp hq).1, rfl, hl⟩
  | SetBattlegroundOrBattlefieldRaid guid =>
    obtain ⟨g₀, hg₀, hn⟩ := Option.bind_eq_some_iff.mp hn
    obtain ⟨⟨-, hmem⟩, h'⟩ := Option.ite_none_right_eq_some.mp hn
    rw [← Option.some.inj h'] at hg ⊢
    obtain rfl : g₀ = g := Option.some.inj (hg₀.symm.trans hg)
    refine (h g₀ hg).of_update (fun _ ↦ rfl) fun p hl ↦ ?_
    rcases Player.linked_setBattlegroundOrBattlefieldRaid hl with hl | _
    · exact .inl hl
    · exact .inr hmem
  | AnotherAdds group b guid =>
    obtain ⟨hanother, h'⟩ := Option.ite_none_right_eq_some.mp hn
    rw [← Option.some.inj h'] at hg ⊢
    refine (h g hg).of_update (fun _ ↦ Player.join_guid) fun p hl ↦ ?_
    rcases Player.linked_join hl with hl | heq
    · exact .inl hl
    · exact absurd heq.symm (hanother g hg)
  | AnotherRemoves group b guid =>
    obtain ⟨-, h'⟩ := Option.ite_none_right_eq_some.mp hn
    rw [← Option.some.inj h'] at hg ⊢
    exact (h g hg).of_update (fun _ ↦ Player.unlink_guid) fun p hl ↦ .inl (Player.linked_unlink hl)
  | AnotherGone group =>
    obtain ⟨-, h'⟩ := Option.ite_none_right_eq_some.mp hn
    rw [← Option.some.inj h'] at hg ⊢
    refine (h g hg).of_players fun q hq hl ↦ ?_
    obtain ⟨p, hp, rfl⟩ := List.mem_map.mp hq
    exact .inr ⟨p, hp, rfl, Player.linked_clearReferences hl⟩

theorem sound_of_reaches (h : machine.Reaches Admitted w) : ∀ g, w.group = some g → Sound w.players g := by
  refine h.invariant (P := fun w ↦ ∀ g, w.group = some g → Sound w.players g)
    (fun g hg ↦ nomatch hg) fun w call w' hw ha hn g hg ↦ sound_next hw ha hn hg

/-! ### No guid has two slots -/

theorem guids_eraseSlot : List.Sublist ((g.eraseSlot guid).m_memberSlots.map MemberSlot.guid)
    (g.m_memberSlots.map MemberSlot.guid) := by
  obtain ⟨-, heq⟩ | ⟨_, _, -, -, heq⟩ := eraseSlot_cases g guid
  · rw [heq]
  · rw [heq]
    exact (List.eraseIdx_sublist _ _).map _

theorem slots_changeLeader : (g.ChangeLeader players guid).m_memberSlots = g.m_memberSlots := by
  obtain heq | ⟨-, heq⟩ := Group.changeLeader_cases g players guid <;>
    rw [heq]

theorem guids_dropMember : List.Sublist ((g.dropMember players guid).m_memberSlots.map MemberSlot.guid)
      (g.m_memberSlots.map MemberSlot.guid) := by
  unfold Group.dropMember
  dsimp only
  split
  · obtain ⟨_, -, hpick⟩ | ⟨hpick, -⟩ := Group.pickLeader_cases (g.eraseSlot guid) players <;> rw [hpick] <;>
      exact guids_eraseSlot
  · exact guids_eraseSlot

theorem nodup_addMember (h : (g.m_memberSlots.map MemberSlot.guid).Nodup) {player : ObjectGuid}
    (hnew : ¬ g.IsMember player) (subGroup : UInt8) :
    ((g.pushSlot player subGroup).m_memberSlots.map MemberSlot.guid).Nodup := by
  change ((g.m_memberSlots ++ [MemberSlot.mk player subGroup]).map MemberSlot.guid).Nodup
  rw [List.map_append, List.nodup_append]
  refine ⟨h, List.nodup_singleton _, fun x hx y hy heq ↦ ?_⟩
  replace heq : x = player := heq.trans (List.mem_singleton.mp hy)
  subst heq
  exact hnew (Group.isMember_iff.mpr hx)

theorem nodup_next (h : ∀ g, w.group = some g → (g.m_memberSlots.map MemberSlot.guid).Nodup)
    {call : Call} (ha : AddsNew w call) (hn : w.next call = some w') (hg : w'.group = some g) :
    (g.m_memberSlots.map MemberSlot.guid).Nodup := by
  cases call with
  | Create m_guid leader lfg bg bf =>
    obtain ⟨⟨hnone, -, -⟩, h'⟩ := Option.ite_none_right_eq_some.mp hn
    rw [← Option.some.inj h', World.Create, World.AddMember] at hg
    cases hfree : (World.created m_guid leader lfg bg bf).freeSubGroup with
    | none =>
      rw [hfree] at hg
      exact h g hg
    | some subGroup =>
      rw [hfree] at hg
      obtain rfl := Option.some.inj hg
      have hempty : (World.created m_guid leader lfg bg bf).m_memberSlots = [] := by
        rw [World.created]
        split <;> rfl
      refine nodup_addMember ?_ ?_ subGroup
      · simp [hempty]
      · simp [Group.IsMember, hempty]
  | AddMember player =>
    obtain ⟨g₀, hg₀, hn⟩ := Option.bind_eq_some_iff.mp hn
    obtain ⟨-, h'⟩ := Option.ite_none_right_eq_some.mp hn
    rw [← Option.some.inj h', World.AddMember] at hg
    cases hfree : g₀.freeSubGroup with
    | none =>
      rw [hfree] at hg
      exact h g hg
    | some subGroup =>
      rw [hfree] at hg
      obtain rfl := Option.some.inj hg
      exact nodup_addMember (h g₀ hg₀) (ha g₀ hg₀) subGroup
  | ConvertToRaid | ConvertToLFG =>
    obtain ⟨g₀, hg₀, rfl⟩ := Option.map_eq_some_iff.mp hn
    obtain rfl := Option.some.inj hg
    exact h g₀ hg₀
  | ChangeMembersGroup guid into =>
    obtain ⟨g₀, hg₀, rfl⟩ := Option.map_eq_some_iff.mp hn
    obtain rfl := Option.some.inj hg
    rw [Group.guids_changeMembersGroup]
    exact h g₀ hg₀
  | RemoveMember guid method inDungeon =>
    obtain ⟨g₀, hg₀, rfl⟩ := Option.map_eq_some_iff.mp hn
    obtain heq | ⟨players', -, heq, -⟩ := Sound.removeMember_cases hg
    · rw [heq] at hg
      exact h g hg
    · rw [heq] at hg
      obtain rfl := Option.some.inj hg
      exact (h g₀ hg₀).sublist guids_dropMember
  | ChangeLeader guid =>
    obtain ⟨g₀, hg₀, rfl⟩ := Option.map_eq_some_iff.mp hn
    obtain rfl := Option.some.inj hg
    rw [slots_changeLeader]
    exact h g₀ hg₀
  | Disband =>
    obtain ⟨g₀, hg₀, rfl⟩ := Option.map_eq_some_iff.mp hn
    cases hg
  | Disconnect guid =>
    rw [← Option.some.inj hn] at hg
    exact h g hg
  | SetBattlegroundOrBattlefieldRaid guid =>
    obtain ⟨g₀, hg₀, hn⟩ := Option.bind_eq_some_iff.mp hn
    obtain ⟨-, h'⟩ := Option.ite_none_right_eq_some.mp hn
    rw [← Option.some.inj h'] at hg
    exact h g hg
  | Connect _ _ | AnotherAdds _ _ _ | AnotherRemoves _ _ _ | AnotherGone _ =>
    obtain ⟨-, h'⟩ := Option.ite_none_right_eq_some.mp hn
    rw [← Option.some.inj h'] at hg
    exact h g hg

theorem nodup_of_reaches (h : machine.Reaches AddsNew w) :
    ∀ g, w.group = some g → (g.m_memberSlots.map MemberSlot.guid).Nodup := by
  refine h.invariant (P := fun w ↦ ∀ g, w.group = some g → (g.m_memberSlots.map MemberSlot.guid).Nodup)
    (fun g hg ↦ nomatch hg) fun w call w' hw ha hn g hg ↦ nodup_next hw ha hn hg

/-! ## The bookkeeping -/

/-- A raid has eight counters, each is how many slots have its subgroup, and that is at most five; and
the leader is a member. -/
structure Kept (g : Group) : Prop where
  raid : g.isRaidGroup → g.m_subGroupsCounts.isSome
  counts : ∀ counts, g.m_subGroupsCounts = some counts → counts.length = MAX_RAID_SUBGROUPS ∧
    ∀ i count, counts[i]? = some count → count.toNat = inSubGroup g.m_memberSlots i ∧ count.toNat ≤ MAXGROUPSIZE
  leader : g.m_leaderGuid ∈ g.m_memberSlots.map MemberSlot.guid

/-- **The bookkeeping of a group is right in all runs in which nobody is added to a full group that is no
raid, and nobody leaves a battleground group that is his original group.** -/
theorem bookkeeping_of_reaches (h : machine.Reaches Admitted w) (hg : w.group = some g) :
    Kept g ∧ (machine.Reaches AddsNew w → (g.m_memberSlots.map MemberSlot.guid).Nodup) := by
  have hs := sound_of_reaches h g hg
  refine ⟨⟨fun hraid ↦ hs.tidy.raid ▸ hraid, fun counts hcounts ↦ ?_, Group.isMember_iff.mp hs.leader⟩,
    fun hadds ↦ nodup_of_reaches hadds g hg⟩
  obtain ⟨hlen, hcount⟩ := hs.tidy.counted counts hcounts
  refine ⟨hlen, fun i count hi ↦ ⟨hcount i count hi, ?_⟩⟩
  rw [hcount i count hi]
  exact hs.tidy.small i

/-- What `AddMember` is only called with, and the subgroups that members are moved to. -/
def Claimed (w : World) : Call → Prop
  | .AddMember player => ∀ g ∈ w.group, ¬ g.IsMember player
  | .ChangeMembersGroup _ group => ∀ g ∈ w.group, group.toNat < MAX_RAID_SUBGROUPS ∧ g.HasFreeSlotSubGroup group
  | _ => True

instance (w : World) : (call : Call) → Decidable (Claimed w call)
  | .AddMember _ => inferInstanceAs (Decidable (∀ g ∈ w.group, _))
  | .ChangeMembersGroup _ _ => inferInstanceAs (Decidable (∀ g ∈ w.group, _))
  | .Create .. | .ConvertToRaid | .ConvertToLFG | .RemoveMember .. | .ChangeLeader _ | .Disband
  | .Connect .. | .Disconnect _ | .SetBattlegroundOrBattlefieldRaid _ | .AnotherAdds ..
  | .AnotherRemoves .. | .AnotherGone _ => inferInstanceAs (Decidable True)

instance (w : World) : (call : Call) → Decidable (Admitted w call)
  | .AddMember _ => inferInstanceAs (Decidable (∀ g ∈ w.group, _))
  | .ChangeMembersGroup _ _ => inferInstanceAs (Decidable (∀ g ∈ w.group, _))
  | .RemoveMember .. => inferInstanceAs (Decidable (∀ g ∈ w.group, _))
  | .Create .. | .ConvertToRaid | .ConvertToLFG | .ChangeLeader _ | .Disband
  | .Connect .. | .Disconnect _ | .SetBattlegroundOrBattlefieldRaid _ | .AnotherAdds ..
  | .AnotherRemoves .. | .AnotherGone _ => inferInstanceAs (Decidable True)

/-- Four players make a raid, one is moved to another subgroup and one goes offline, and the leader
leaves. -/
def leaderLeaves : List Call :=
  [.Connect 1 none, .Connect 2 none, .Connect 3 none, .Connect 4 none, .Create 7 1 false false false,
    .AddMember 2, .AddMember 3, .AddMember 4, .ConvertToRaid, .ChangeMembersGroup 4 2, .Disconnect 2,
    .RemoveMember 1 .LEAVE false]

theorem bookkeeping_leaderLeaves :
    ∃ w : World, ∃ g, w.group = some g ∧ Kept g ∧ g.m_leaderGuid = 3 := by
  obtain ⟨w, hw, hany⟩ := machine.exists_reaches Admitted leaderLeaves
    (fun w ↦ w.group.any fun g ↦ g.m_leaderGuid = 3) (by decide +kernel)
  obtain ⟨g, hg, hleader⟩ := (Option.any_eq_true _ _).mp hany
  exact ⟨w, g, hg, (bookkeeping_of_reaches hw hg).1, of_decide_eq_true hleader⟩

/-- Six players in a group that is made a raid only then. -/
def sixAdded : List Call := [.Connect 1 none, .Connect 2 none, .Connect 3 none, .Connect 4 none, .Connect 5 none,
    .Connect 6 none, .Create 7 1 false false false, .AddMember 2, .AddMember 3, .AddMember 4,
    .AddMember 5, .AddMember 6, .ConvertToRaid]

/-- Two players of a battlefield group are added to a battleground group, which makes the first one their
original group, and then leave the first one; its third player is offline. -/
def takenOver : List Call :=
  [.Connect 1 none, .Connect 2 none, .Connect 3 none, .Create 7 1 false false true, .AddMember 2,
    .AddMember 3, .Disconnect 3, .AnotherAdds 8 true 1, .AnotherAdds 8 true 2,
    .RemoveMember 2 .DEFAULT false, .RemoveMember 1 .DEFAULT false]

/-- Without the first condition a counter can be 6, and without the second the leader can be nobody. -/
theorem not_bookkeeping : (¬ ∀ (w : World) g, machine.Reaches Claimed w → w.group = some g → ∀ counts,
      g.m_subGroupsCounts = some counts → ∀ count ∈ counts, count.toNat ≤ MAXGROUPSIZE) ∧
    ¬ ∀ (w : World) g, machine.Reaches Claimed w → w.group = some g →
      g.m_leaderGuid ∈ g.m_memberSlots.map MemberSlot.guid := by
  constructor
  · intro hall
    obtain ⟨w, hw, hany⟩ := machine.exists_reaches Claimed sixAdded
      (fun w ↦ w.group.any fun g ↦ g.m_subGroupsCounts.any fun counts ↦ counts.any fun count ↦ MAXGROUPSIZE <
        count.toNat) (by decide +kernel)
    obtain ⟨g, hg, hany⟩ := (Option.any_eq_true _ _).mp hany
    obtain ⟨counts, hcounts, hany⟩ := (Option.any_eq_true _ _).mp hany
    obtain ⟨count, hcount, hlt⟩ := List.any_eq_true.mp hany
    exact absurd (hall w g hw hg counts hcounts count hcount) (Nat.not_le.mpr (of_decide_eq_true hlt))
  · intro hall
    obtain ⟨w, hw, hany⟩ := machine.exists_reaches Claimed takenOver
      (fun w ↦ w.group.any fun g ↦ g.m_leaderGuid ∉ g.m_memberSlots.map MemberSlot.guid) (by decide +kernel)
    obtain ⟨g, hg, hleader⟩ := (Option.any_eq_true _ _).mp hany
    exact of_decide_eq_true hleader (hall w g hw hg)

end Gundrak.Grouping
