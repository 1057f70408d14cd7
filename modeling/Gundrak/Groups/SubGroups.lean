import Gundrak.Groups.Group
import Gundrak.Util.Counting

/-!
# The subgroup counters of a raid

A raid counts its members in each subgroup in a `uint8`, one up or down with every slot that comes, goes or
moves, and from the slots themselves when it is made.  `Counted` says that the counters are right, and
`Tidy` what is true of the slots and counters of a group together: also that no subgroup has more than five
members, so that the counters never carry over, and that a group without counters has only the first
subgroup and not more than five members.

Each operation has a lemma that it keeps `Tidy`.  `AddMember` only does if a group that is no raid is not
full, and nothing in `AddMember` looks for that.
-/

namespace Gundrak.Grouping

variable {slots : List MemberSlot} {counts : List UInt8} {g : Group} {guid : ObjectGuid}

/-- How many slots are in a subgroup. -/
def inSubGroup (slots : List MemberSlot) (i : ℕ) : ℕ := slots.countP (·.group.toNat = i)

/-- There are eight counters, and they are right. -/
def Counted (slots : List MemberSlot) (counts : List UInt8) : Prop :=
  counts.length = MAX_RAID_SUBGROUPS ∧ ∀ i count, counts[i]? = some count → count.toNat = inSubGroup slots i

/-- What the slots and the counters of a group keep. -/
structure Group.Tidy (g : Group) : Prop where
  /-- the subgroups exist -/
  placed : ∀ slot ∈ g.m_memberSlots, slot.group.toNat < MAX_RAID_SUBGROUPS
  /-- and none has too many members -/
  small : ∀ i, inSubGroup g.m_memberSlots i ≤ MAXGROUPSIZE
  counted : ∀ counts, g.m_subGroupsCounts = some counts → Counted g.m_memberSlots counts
  /-- a group is a raid or small -/
  party : g.m_subGroupsCounts = none → g.m_memberSlots.length ≤ MAXGROUPSIZE
  raid : g.raid = g.m_subGroupsCounts.isSome

/-! ## One counter up or down -/

theorem inSubGroup_append (slots : List MemberSlot) (slot : MemberSlot) (i : ℕ) :
    inSubGroup (slots ++ [slot]) i = inSubGroup slots i + if slot.group.toNat = i then 1 else 0 := by
  simp [inSubGroup]

theorem inSubGroup_le_length (i : ℕ) : inSubGroup slots i ≤ slots.length := List.countP_le_length

theorem inSubGroup_eraseIdx {j : ℕ} {slot : MemberSlot} (hslot : slots[j]? = some slot) (i : ℕ) :
    inSubGroup (slots.eraseIdx j) i + (if slot.group.toNat = i then 1 else 0) = inSubGroup slots i := by
  have h := countP_eraseIdx (p := fun slot ↦ decide (slot.group.toNat = i)) hslot
  simpa only [inSubGroup, decide_eq_true_eq] using h

theorem inSubGroup_modify {j : ℕ} {slot : MemberSlot} (hslot : slots[j]? = some slot) (group : UInt8) (i : ℕ) :
    inSubGroup (slots.modify j ({ · with group := group })) i + (if slot.group.toNat = i then 1 else 0) =
      inSubGroup slots i + if group.toNat = i then 1 else 0 := by
  have h := countP_modify (p := fun slot ↦ decide (slot.group.toNat = i))
    (f := fun slot ↦ { slot with group := group }) hslot
  simpa only [inSubGroup, decide_eq_true_eq] using h

/-- A counter that has room for one more is right after one more is counted. -/
theorem counted_increase {slots' : List MemberSlot} (hc : Counted slots counts) {group : UInt8}
    (hroom : inSubGroup slots group.toNat < 255)
    (h : ∀ i, inSubGroup slots' i = inSubGroup slots i + if group.toNat = i then 1 else 0) :
    Counted slots' (counts.modify group.toNat (· + 1)) := by
  refine ⟨by rw [List.length_modify, hc.1], fun i count hi ↦ ?_⟩
  rw [List.getElem?_modify] at hi
  obtain ⟨old, hold, rfl⟩ := Option.map_eq_some_iff.mp hi
  have hcount := hc.2 i old hold
  rw [h i]
  split
  · rename_i heq
    subst heq
    rw [UInt8.toNat_add, hcount]
    exact Nat.mod_eq_of_lt (by change inSubGroup slots group.toNat + 1 < 256; omega)
  · exact hcount

/-- And a counter that is not 0 is right after one less is counted. -/
theorem counted_decrease {slots' : List MemberSlot} (hc : Counted slots counts) {group : UInt8}
    (h : ∀ i, inSubGroup slots' i + (if group.toNat = i then 1 else 0) = inSubGroup slots i) :
    Counted slots' (counts.modify group.toNat (· - 1)) := by
  refine ⟨by rw [List.length_modify, hc.1], fun i count hi ↦ ?_⟩
  rw [List.getElem?_modify] at hi
  obtain ⟨old, hold, rfl⟩ := Option.map_eq_some_iff.mp hi
  have hcount := hc.2 i old hold
  have h' := h i
  split
  · rename_i heq
    rw [if_pos heq] at h'
    have hle : (1 : UInt8) ≤ old := UInt8.le_iff_toNat_le.mpr (by change 1 ≤ old.toNat; omega)
    rw [UInt8.toNat_sub_of_le _ _ hle]
    change old.toNat - 1 = _
    omega
  · rename_i hne
    rw [if_neg hne] at h'
    omega

/-! ## Counting all slots -/

theorem counted_nil : Counted [] (List.replicate MAX_RAID_SUBGROUPS 0) := by
  refine ⟨List.length_replicate, fun i count hi ↦ ?_⟩
  rw [List.eq_of_mem_replicate (List.mem_of_getElem? hi)]
  rfl

/-- `_initRaidSubGroupsCounter` counts right while no subgroup has more than 255 members. -/
theorem counted_countSlots (hsmall : ∀ i, inSubGroup slots i ≤ 255) : Counted slots (Group.countSlots slots) := by
  induction slots using List.reverseRecOn with
  | nil => exact counted_nil
  | append_singleton slots slot ih =>
    have hstep : ∀ i, inSubGroup (slots ++ [slot]) i =
        inSubGroup slots i + if slot.group.toNat = i then 1 else 0 := inSubGroup_append slots slot
    have hc : Counted slots (Group.countSlots slots) := ih fun i ↦ by
      have := hsmall i
      rw [hstep i] at this
      omega
    have hroom : inSubGroup slots slot.group.toNat < 255 := by
      have := hsmall slot.group.toNat
      rw [hstep, if_pos rfl] at this
      omega
    rw [Group.countSlots, List.foldl_append]
    exact counted_increase hc hroom hstep

/-! ## The operations -/

theorem tidy_created (m_guid : ℕ) (leader : ObjectGuid) (lfg bg bf : Bool) :
    (World.created m_guid leader lfg bg bf).Tidy := by
  have hempty : ∀ i, inSubGroup [] i ≤ MAXGROUPSIZE := fun i ↦ Nat.zero_le _
  rw [World.created]
  split
  · rename_i hraid
    refine ⟨fun slot hslot ↦ absurd hslot List.not_mem_nil, hempty, fun counts h ↦ ?_,
      fun h ↦ absurd h (by simp [Group._initRaidSubGroupsCounter]), hraid⟩
    rw [← Option.some.inj h]
    exact counted_countSlots fun i ↦ Nat.zero_le _
  · rename_i hraid
    exact ⟨fun slot hslot ↦ absurd hslot List.not_mem_nil, hempty, fun counts h ↦ (nomatch h),
      fun _ ↦ Nat.zero_le _, Bool.eq_false_iff.mpr hraid⟩

section

variable (ht : g.Tidy) (hfull : g.isRaidGroup ∨ ¬ g.IsFull) {subGroup : UInt8}
  (h : g.freeSubGroup = some subGroup)
include ht hfull h

/-- The subgroup that `AddMember` finds has room, if a group that is no raid is not full. -/
theorem inSubGroup_freeSubGroup : subGroup.toNat < MAX_RAID_SUBGROUPS ∧
      inSubGroup g.m_memberSlots subGroup.toNat < MAXGROUPSIZE := by
  rw [Group.freeSubGroup] at h
  cases hcounts : g.m_subGroupsCounts with
  | none =>
    have hraid : g.isRaidGroup = false := by rw [Group.isRaidGroup, ht.raid, hcounts]; rfl
    rw [hcounts] at h
    obtain rfl := Option.some.inj h
    have hlen : g.m_memberSlots.length < MAXGROUPSIZE := by
      simpa [Group.IsFull, hraid] using hfull
    exact ⟨by decide, Nat.lt_of_le_of_lt (inSubGroup_le_length _) hlen⟩
  | some counts =>
    rw [hcounts] at h
    obtain ⟨i, hi, rfl⟩ := Option.map_eq_some_iff.mp h
    obtain ⟨hlt, hcount, _⟩ := List.findIdx?_eq_some_iff_getElem.mp hi
    have hc := ht.counted counts hcounts
    have hi8 : i < MAX_RAID_SUBGROUPS := hc.1 ▸ hlt
    have htoNat : (UInt8.ofNat i).toNat = i := UInt8.toNat_ofNat_of_lt' (Nat.lt_trans hi8 (by decide))
    rw [htoNat, ← hc.2 i counts[i] (List.getElem?_eq_getElem hlt)]
    exact ⟨hi8, of_decide_eq_true hcount⟩

theorem tidy_pushSlot : (g.pushSlot guid subGroup).Tidy := by
  obtain ⟨hlt, hroom⟩ := inSubGroup_freeSubGroup ht hfull h
  have hstep := inSubGroup_append g.m_memberSlots ⟨guid, subGroup⟩
  constructor
  case placed =>
    intro slot hslot
    rcases List.mem_append.mp hslot with hslot | hslot
    · exact ht.placed slot hslot
    · rw [List.mem_singleton.mp hslot]
      exact hlt
  case small =>
    intro i
    have hi := ht.small i
    change inSubGroup (g.m_memberSlots ++ [⟨guid, subGroup⟩]) i ≤ _
    rw [hstep i]
    split
    · rename_i heq
      rw [← heq]
      exact hroom
    · exact hi
  case counted =>
    intro counts hcounts
    obtain ⟨old, hold, rfl⟩ := Option.map_eq_some_iff.mp hcounts
    exact counted_increase (ht.counted old hold) (Nat.lt_trans hroom (by decide)) hstep
  case party =>
    intro hnone
    have hold : g.m_subGroupsCounts = none := Option.map_eq_none_iff.mp hnone
    have hraid : g.isRaidGroup = false := by rw [Group.isRaidGroup, ht.raid, hold]; rfl
    have hlen : g.m_memberSlots.length < MAXGROUPSIZE := by
      simpa [Group.IsFull, hraid] using hfull
    change (g.m_memberSlots ++ [MemberSlot.mk guid subGroup]).length ≤ _
    simpa using hlen
  case raid =>
    change g.raid = (g.m_subGroupsCounts.map _).isSome
    simpa using ht.raid

end

theorem tidy_convertToRaid (ht : g.Tidy) : g.ConvertToRaid.Tidy where
  placed := ht.placed
  small := ht.small
  counted := fun counts h ↦ by
    rw [← Option.some.inj h]
    exact counted_countSlots fun i ↦ Nat.le_trans (ht.small i) (by decide)
  party := fun h ↦ nomatch h
  raid := rfl

/-- The slot that `_getMemberWSlot` finds is the one `GetMemberGroup` looks at. -/
theorem getMemberWSlot_eq_some {j : ℕ} (h : g._getMemberWSlot guid = some j) :
    ∃ slot, g.m_memberSlots[j]? = some slot ∧ slot.guid = guid ∧ g.GetMemberGroup guid = slot.group := by
  obtain ⟨hlt, hguid, hbefore⟩ := List.findIdx?_eq_some_iff_getElem.mp h
  refine ⟨g.m_memberSlots[j], List.getElem?_eq_getElem hlt, of_decide_eq_true hguid, ?_⟩
  have hfind : g.m_memberSlots.find? (·.guid = guid) = some g.m_memberSlots[j] :=
    List.find?_eq_some_iff_getElem.mpr ⟨hguid, j, hlt, rfl, fun i hi ↦ by simpa using hbefore i hi⟩
  rw [Group.GetMemberGroup, hfind]

theorem tidy_changeMembersGroup (ht : g.Tidy) {group : UInt8}
    (hlt : group.toNat < MAX_RAID_SUBGROUPS) (hfree : g.HasFreeSlotSubGroup group) :
    (g.ChangeMembersGroup guid group).Tidy := by
  rw [Group.ChangeMembersGroup]
  split
  · exact ht
  rename_i hraid
  split
  · exact ht
  rename_i j hj
  obtain ⟨slot, hslot, -, hgroup⟩ := getMemberWSlot_eq_some hj
  rw [hgroup]
  split
  · exact ht
  rename_i hne
  have hmove := inSubGroup_modify hslot group
  -- the counter of the new subgroup is right, and below five
  obtain ⟨counts, hcounts⟩ : ∃ counts, g.m_subGroupsCounts = some counts := by
    refine Option.isSome_iff_exists.mp ?_
    rw [← ht.raid]
    simpa [Group.isRaidGroup] using hraid
  have hc := ht.counted counts hcounts
  have hroom : inSubGroup g.m_memberSlots group.toNat < MAXGROUPSIZE := by
    rw [Group.HasFreeSlotSubGroup, hcounts] at hfree
    obtain ⟨count, hcount, hfive⟩ := (Option.any_eq_true _ _).mp hfree
    rw [← hc.2 _ count hcount]
    exact of_decide_eq_true hfive
  constructor
  case placed =>
    intro s hs
    obtain ⟨i, hi⟩ := List.mem_iff_getElem?.mp hs
    change (g.m_memberSlots.modify j _)[i]? = some s at hi
    rw [List.getElem?_modify] at hi
    obtain ⟨old, hold, rfl⟩ := Option.map_eq_some_iff.mp hi
    split
    · exact hlt
    · exact ht.placed old (List.mem_of_getElem? hold)
  case small =>
    intro i
    have hi := ht.small i
    have hm := hmove i
    change inSubGroup (g.m_memberSlots.modify j _) i ≤ _
    by_cases heq : group.toNat = i
    · subst heq
      rw [if_pos rfl] at hm
      omega
    · rw [if_neg heq] at hm
      omega
  case counted =>
    intro counts' hcounts'
    have hup : Counted (g.m_memberSlots ++ [⟨guid, group⟩]) (counts.modify group.toNat (· + 1)) :=
      counted_increase hc (Nat.lt_trans hroom (by decide)) (inSubGroup_append _ ⟨guid, group⟩)
    have hdown : Counted (g.m_memberSlots.modify j ({ · with group := group }))
        ((counts.modify group.toNat (· + 1)).modify slot.group.toNat (· - 1)) :=
      counted_decrease hup fun i ↦ by rw [hmove i, inSubGroup_append]
    have heq : counts' = (counts.modify group.toNat (· + 1)).modify slot.group.toNat (· - 1) := by
      have h : (g.m_subGroupsCounts.map fun counts ↦ counts.modify group.toNat (· + 1)).map
          (fun counts ↦ counts.modify slot.group.toNat (· - 1)) = some counts' := hcounts'
      rw [hcounts] at h
      exact (Option.some.inj h).symm
    rw [heq]
    exact hdown
  case party =>
    intro hnone
    have h : (g.m_subGroupsCounts.map fun counts ↦ counts.modify group.toNat (· + 1)).map
        (fun counts ↦ counts.modify slot.group.toNat (· - 1)) = none := hnone
    rw [hcounts] at h
    exact nomatch h
  case raid =>
    change g.raid = ((g.m_subGroupsCounts.map _).map _).isSome
    simpa using ht.raid

theorem eraseSlot_cases (g : Group) (guid : ObjectGuid) : g.IsMember guid = false ∧ g.eraseSlot guid = g ∨
      ∃ j slot, g.m_memberSlots[j]? = some slot ∧ slot.guid = guid ∧ g.eraseSlot guid =
        { g.SubGroupCounterDecrease slot.group with
          m_memberSlots := g.m_memberSlots.eraseIdx j } := by
  rw [Group.eraseSlot]
  cases hj : g._getMemberWSlot guid with
  | none =>
    left
    have hnone := List.findIdx?_eq_none_iff.mp hj
    exact ⟨List.any_eq_false.mpr fun slot hslot ↦ by simpa using hnone slot hslot, rfl⟩
  | some j =>
    right
    obtain ⟨slot, hslot, hguid, -⟩ := getMemberWSlot_eq_some hj
    simp only [hslot]
    exact ⟨j, slot, hslot, hguid, rfl⟩

theorem tidy_eraseSlot (ht : g.Tidy) : (g.eraseSlot guid).Tidy := by
  obtain ⟨-, heq⟩ | ⟨j, slot, hslot, -, heq⟩ := eraseSlot_cases g guid
  · rw [heq]
    exact ht
  rw [heq]
  have hstep := inSubGroup_eraseIdx hslot
  constructor
  case placed => exact fun s hs ↦ ht.placed s (List.mem_of_mem_eraseIdx hs)
  case small =>
    intro i
    have hi := ht.small i
    rw [← hstep i] at hi
    exact Nat.le_trans (Nat.le_add_right _ _) hi
  case counted =>
    intro counts hcounts
    obtain ⟨old, hold, rfl⟩ := Option.map_eq_some_iff.mp hcounts
    exact counted_decrease (ht.counted old hold) hstep
  case party =>
    intro hnone
    have hlen := ht.party (Option.map_eq_none_iff.mp hnone)
    exact Nat.le_trans (List.eraseIdx_sublist _ _).length_le hlen
  case raid =>
    change g.raid = (g.m_subGroupsCounts.map _).isSome
    simpa using ht.raid

end Gundrak.Grouping
