import Gundrak.Chat.Channel
import Gundrak.Util.Machine

/-!
# The owner of a channel

A channel keeps who owns it twice, as a guid and as a flag of a member.  `OwnerKept` says how the two, the
moderator flag and the banned players fit together.

An owner who kicks or bans himself breaks this: his entry is erased, then used, and the channel is given to him
although he is not a member any more; when nobody else is there, the channel stays his.
**`ownerKept_of_reaches`** says that `OwnerKept` holds in every run in which no owner does this.  A member may
well name himself in any other request.
-/

open Std (ExtTreeMap)

namespace Gundrak.Chat

/-! ## Requests -/

/-- What the players ask for.  A join comes with what the database knows of the channel, in case it has to be
made; a player who logs out leaves too. -/
inductive Request where
  | Join (player : Player) (pass : Name) (savedPassword : Name) (savedBans : Finset ObjectGuid)
  | Leave (player : Player)
  | Kick (sender : Sender) (targetName : Name)
  | Ban (sender : Sender) (targetName : Name)
  | UnBan (sender : Sender) (targetName : Name)
  | SetOwner (sender : Sender) (targetName : Name)
  | SetModerator (sender : Sender) (targetName : Name) (set : Bool)
  | SetMute (sender : Sender) (targetName : Name) (set : Bool)
  | SetInvisible (player : Player) (on : Bool)

/-- A channel name, and the channel of this name while there is one.  Also, whether an entry of a member has
been used after it had been erased. -/
structure ChannelName where
  channel : Option Channel
  usedErased : Bool

namespace ChannelName

variable (c : ChannelName)

/-- Do something with the channel. -/
def change (f : Channel → Channel) : ChannelName := { c with channel := c.channel.map f }

/-- The handlers of the requests with a target name. -/
def forTarget (targetName : Name) (f : Name → Channel → Channel) : ChannelName :=
  match normalizePlayerName targetName with
  | none => c
  | some targetName => c.change (f targetName)

/-- `HandleChannelKick` and `HandleChannelBan`. -/
def kickOrBan (sender : Sender) (targetName : Name) (ban : Bool) : ChannelName :=
  match normalizePlayerName targetName, c.channel with
  | some targetName, some ch =>
    let result := ch.KickOrBan sender targetName ban
    ⟨some result.1, c.usedErased || result.2⟩
  | _, _ => c

/-- What a request does.  `ChannelMgr` makes a channel when someone wants to join it, and deletes it when the
last member has left. -/
def handle : Request → ChannelName
  | .Join player pass savedPassword savedBans =>
    let ch := c.channel.getD (.new savedPassword savedBans)
    { c with channel := some (ch.JoinChannel player pass) }
  | .Leave player =>
    { c with channel := (c.channel.map (·.LeaveChannel player)).filter (!·._playersStore.isEmpty) }
  | .Kick sender targetName => c.kickOrBan sender targetName false
  | .Ban sender targetName => c.kickOrBan sender targetName true
  | .UnBan sender targetName => c.forTarget targetName fun name ch ↦ ch.UnBan sender name
  | .SetOwner sender targetName => c.forTarget targetName fun name ch ↦ ch.SetOwnerByName sender name
  | .SetModerator sender targetName set =>
    c.forTarget targetName fun name ch ↦ ch.SetMode sender name true set
  | .SetMute sender targetName set => c.forTarget targetName fun name ch ↦ ch.SetMode sender name false set
  | .SetInvisible player on => c.change (·.SetInvisible player on)

/-- The owner of the channel names himself. -/
def IsOwnerHimself (sender : Sender) (targetName : Name) : Prop :=
  ∃ ch ∈ c.channel, ∃ name ∈ normalizePlayerName targetName, ∃ bad ∈ sender.players.FindConnectedPlayerByName name,
      bad.guid = sender.player.guid ∧ ch._ownerGuid = sender.player.guid

/-- The owner does not kick or ban himself. -/
def KeepsOwner : Request → Prop
  | .Kick sender targetName | .Ban sender targetName => ¬ c.IsOwnerHimself sender targetName
  | _ => True

end ChannelName

/-- The requests as a machine. -/
def channelMachine : Machine ChannelName Request where
  start := ⟨none, false⟩
  next c request := some (c.handle request)

/-! ## Flags -/

namespace PlayerInfo

theorem hasFlag_changeFlag (info : PlayerInfo) {flag : UInt8} (h : flag ≠ 0) (state : Bool) :
    (info.changeFlag flag state).HasFlag flag = state := by
  cases state with
  | true =>
    have hself : (info.flags ||| flag) &&& flag = flag := by
      refine UInt8.toBitVec_inj.mp ?_
      ext i
      simpa using Or.inr
    simpa [HasFlag, changeFlag, hself] using h
  | false =>
    have hself : (info.flags &&& ~~~flag) &&& flag = 0 := by
      rw [UInt8.and_assoc, UInt8.not_and_self, UInt8.and_zero]
    simp [HasFlag, changeFlag, hself]

theorem hasFlag_changeFlag_of_disjoint (info : PlayerInfo) {flag other : UInt8} (h : flag &&& other = 0)
    (state : Bool) : (info.changeFlag flag state).HasFlag other = info.HasFlag other := by
  have hbits : ∀ (i : ℕ) (hi : i < 8), (flag.toBitVec[i] && other.toBitVec[i]) = false := by
    intro i hi
    rw [← BitVec.getElem_and, ← UInt8.toBitVec_and, h]
    exact BitVec.getElem_zero hi
  cases state with
  | true =>
    have hsame : (info.flags ||| flag) &&& other = info.flags &&& other := by
      refine UInt8.toBitVec_inj.mp ?_
      ext i hi
      simp only [UInt8.toBitVec_and, UInt8.toBitVec_or, BitVec.getElem_and, BitVec.getElem_or]
      rw [Bool.and_or_distrib_right, hbits i hi, Bool.or_false]
    simp [HasFlag, changeFlag, hsame]
  | false =>
    have hsame : (info.flags &&& ~~~flag) &&& other = info.flags &&& other := by
      refine UInt8.toBitVec_inj.mp ?_
      ext i hi
      simp only [UInt8.toBitVec_and, UInt8.toBitVec_not, BitVec.getElem_and, BitVec.getElem_not]
      have hnot := hbits i hi
      revert hnot
      cases flag.toBitVec[i] <;> cases other.toBitVec[i] <;> simp
    simp [HasFlag, changeFlag, hsame]

theorem isOwner_new (invisible : Bool) : (⟨MEMBER_FLAG_NONE, invisible⟩ : PlayerInfo).IsOwner = false := by
  cases invisible <;> decide

section

variable (info : PlayerInfo) (state : Bool)

@[simp] theorem isOwner_setOwner : (info.SetOwner state).IsOwner = state := hasFlag_changeFlag info (by decide) state

@[simp] theorem isModerator_setModerator :
    (info.SetModerator state).IsModerator = state := hasFlag_changeFlag info (by decide) state

@[simp] theorem isModerator_setOwner : (info.SetOwner state).IsModerator = info.IsModerator :=
  hasFlag_changeFlag_of_disjoint info (by decide) state

@[simp] theorem isOwner_setModerator : (info.SetModerator state).IsOwner = info.IsOwner :=
  hasFlag_changeFlag_of_disjoint info (by decide) state

@[simp] theorem isOwner_setMuted : (info.SetMuted state).IsOwner = info.IsOwner :=
  hasFlag_changeFlag_of_disjoint info (by decide) state

@[simp] theorem isModerator_setMuted : (info.SetMuted state).IsModerator = info.IsModerator :=
  hasFlag_changeFlag_of_disjoint info (by decide) state

end

end PlayerInfo

/-! ## What is kept -/

namespace Channel

variable {ch : Channel} {guid : ObjectGuid} {player : Player}

/-- The owner is a member or there is none, his entry is the one with the owner flag, he is a moderator, and
nobody who is banned is a member. -/
structure OwnerKept (ch : Channel) : Prop where
  owner : ch._ownerGuid = ObjectGuid.Empty ∨ ch.IsOn ch._ownerGuid
  flag : ∀ guid info, ch._playersStore[guid]? = some info → (info.IsOwner ↔ guid = ch._ownerGuid)
  moderator : ∀ info, ch._playersStore[ch._ownerGuid]? = some info → info.IsModerator
  banned : ∀ guid, ch.IsOn guid → ¬ ch.IsBanned guid

/-- What holds also while the owner is being replaced: only he may have the owner flag. -/
structure Tidy (ch : Channel) : Prop where
  enabled : ch._ownershipEnabled
  guid_ne : ∀ guid, ch.IsOn guid → guid ≠ ObjectGuid.Empty
  banned : ∀ guid, ch.IsOn guid → ¬ ch.IsBanned guid
  flag : ∀ guid info, ch._playersStore[guid]? = some info → info.IsOwner → guid = ch._ownerGuid

/-- What holds between two requests. -/
structure Sound (ch : Channel) : Prop where
  enabled : ch._ownershipEnabled
  guid_ne : ∀ guid, ch.IsOn guid → guid ≠ ObjectGuid.Empty
  kept : ch.OwnerKept

theorem Sound.tidy (h : ch.Sound) : ch.Tidy where
  enabled := h.enabled
  guid_ne := h.guid_ne
  banned := h.kept.banned
  flag := fun guid info hinfo ↦ (h.kept.flag guid info hinfo).mp

theorem isOn_iff : ch.IsOn guid ↔ ∃ info, ch._playersStore[guid]? = some info := TreeMap.mem_iff ch._playersStore guid

theorem get_modify (ch : Channel) (guid a : ObjectGuid) (f : PlayerInfo → PlayerInfo) :
    (ch.modify guid f)._playersStore[a]? =
      if guid = a then (ch._playersStore[guid]?).map f else ch._playersStore[a]? :=
  TreeMap.get_modify ch._playersStore guid a f

theorem isOn_modify (guid a : ObjectGuid) (f : PlayerInfo → PlayerInfo) : (ch.modify guid f).IsOn a ↔ ch.IsOn a := by
  rw [isOn_iff, isOn_iff, get_modify]
  split
  · rename_i heq
    subst heq
    cases ch._playersStore[guid]? with
    | none => simp
    | some info => simp
  · rfl

theorem Tidy.modify (h : ch.Tidy) {f : PlayerInfo → PlayerInfo} (hf : ∀ info, (f info).IsOwner → info.IsOwner)
    (guid : ObjectGuid) : (ch.modify guid f).Tidy where
  enabled := h.enabled
  guid_ne := fun a ha ↦ h.guid_ne a ((isOn_modify guid a f).mp ha)
  banned := fun a ha ↦ h.banned a ((isOn_modify guid a f).mp ha)
  flag := by
    intro a info hinfo hflag
    rw [get_modify] at hinfo
    split at hinfo
    · rename_i heq
      obtain ⟨info', hinfo', rfl⟩ := Option.map_eq_some_iff.mp hinfo
      exact h.flag a info' (heq ▸ hinfo') (hf info' hflag)
    · exact h.flag a info hinfo hflag

/-- A change of an entry that leaves the owner flag alone, and the moderator flag of the owner. -/
theorem Sound.modify (h : ch.Sound) {guid : ObjectGuid} {f : PlayerInfo → PlayerInfo}
    (hf : ∀ info, (f info).IsOwner = info.IsOwner)
    (hmoderator : guid = ch._ownerGuid → ∀ info, info.IsModerator → (f info).IsModerator) :
    (ch.modify guid f).Sound where
  enabled := h.enabled
  guid_ne := fun a ha ↦ h.guid_ne a ((isOn_modify guid a f).mp ha)
  kept := by
    refine ⟨h.kept.owner.imp_right (isOn_modify guid _ f).mpr, ?_, ?_,
      fun a ha ↦ h.kept.banned a ((isOn_modify guid a f).mp ha)⟩
    · intro a info hinfo
      rw [get_modify] at hinfo
      split at hinfo
      · rename_i heq
        obtain ⟨info', hinfo', rfl⟩ := Option.map_eq_some_iff.mp hinfo
        rw [hf]
        exact h.kept.flag a info' (heq ▸ hinfo')
      · exact h.kept.flag a info hinfo
    · intro info hinfo
      rw [get_modify] at hinfo
      split at hinfo
      · rename_i heq
        obtain ⟨info', hinfo', rfl⟩ := Option.map_eq_some_iff.mp hinfo
        have heq : guid = ch._ownerGuid := heq
        exact hmoderator heq info' (h.kept.moderator info' (heq ▸ hinfo'))
      · exact h.kept.moderator info hinfo

/-- The owner gives up the flag. -/
def dismiss (ch : Channel) : Channel :=
  if ch._ownerGuid ≠ ObjectGuid.Empty then ch.modify ch._ownerGuid (·.SetOwner false) else ch

theorem Tidy.dismiss (h : ch.Tidy) : ch.dismiss.Tidy ∧
    ∀ (guid : ObjectGuid) (info : PlayerInfo), ch.dismiss._playersStore[guid]? = some info → ¬ info.IsOwner := by
  unfold Channel.dismiss
  split
  · refine ⟨h.modify (fun info hinfo ↦ ?_) _, fun guid info hinfo hflag ↦ ?_⟩
    · simp [PlayerInfo.isOwner_setOwner] at hinfo
    · rw [get_modify] at hinfo
      split at hinfo
      · obtain ⟨info', -, rfl⟩ := Option.map_eq_some_iff.mp hinfo
        simp [PlayerInfo.isOwner_setOwner] at hflag
      · rename_i hne
        exact hne (h.flag guid info hinfo hflag).symm
  · rename_i hempty
    refine ⟨h, fun guid info hinfo hflag ↦ ?_⟩
    have hguid : guid = ch._ownerGuid := h.flag guid info hinfo hflag
    exact h.guid_ne guid (isOn_iff.mpr ⟨info, hinfo⟩) (hguid.trans (not_not.mp hempty))

theorem isOn_dismiss (a : ObjectGuid) : ch.dismiss.IsOn a ↔ ch.IsOn a := by
  rw [dismiss]
  split
  · exact isOn_modify _ a _
  · rfl

/-- **A new owner.**  A member is made the owner of a channel whose owner may have left. -/
theorem Tidy.setOwner (h : ch.Tidy) (hguid : ch.IsOn guid) : (ch.SetOwner guid).Sound := by
  obtain ⟨hdismissed, hnone⟩ := h.dismiss
  have hne : guid ≠ ObjectGuid.Empty := h.guid_ne guid hguid
  have hset : ch.SetOwner guid =
      { ch.dismiss with _ownerGuid := guid }.modify guid fun info ↦ (info.SetModerator true).SetOwner true :=
    if_pos hne
  rw [hset]
  have hon : ∀ a, ({ ch.dismiss with _ownerGuid := guid }.modify guid fun info ↦
      (info.SetModerator true).SetOwner true).IsOn a ↔ ch.dismiss.IsOn a := fun a ↦ isOn_modify guid a _
  refine ⟨hdismissed.enabled, fun a ha ↦ hdismissed.guid_ne a ((hon a).mp ha), ?_⟩
  refine ⟨.inr ((hon guid).mpr ((isOn_dismiss guid).mpr hguid)), fun a info hinfo ↦ ?_,
    fun info hinfo ↦ ?_, fun a ha ↦ hdismissed.banned a ((hon a).mp ha)⟩
  · rw [get_modify] at hinfo
    split at hinfo
    · rename_i heq
      obtain ⟨info', -, rfl⟩ := Option.map_eq_some_iff.mp hinfo
      rw [PlayerInfo.isOwner_setOwner]
      exact iff_of_true rfl heq.symm
    · rename_i hother
      exact iff_of_false (hnone a info hinfo) fun heq ↦ hother heq.symm
  · have hinfo := (get_modify _ guid guid _).symm.trans hinfo
    rw [if_pos rfl] at hinfo
    obtain ⟨info', -, rfl⟩ := Option.map_eq_some_iff.mp hinfo
    rw [PlayerInfo.isModerator_setOwner, PlayerInfo.isModerator_setModerator]

/-! ## What the requests keep -/

theorem get_of_erase {a : ObjectGuid} {info : PlayerInfo}
    (h : (ch._playersStore.erase guid)[a]? = some info) : ch._playersStore[a]? = some info := by
  rw [TreeMap.get_erase] at h
  split at h
  · cases h
  · exact h

theorem Tidy.erase (h : ch.Tidy) (guid : ObjectGuid) :
    { ch with _playersStore := ch._playersStore.erase guid }.Tidy := by
  have hon : ∀ a, a ∈ ch._playersStore.erase guid → ch.IsOn a := by
    intro a ha
    obtain ⟨info, hinfo⟩ := (TreeMap.mem_iff _ a).mp ha
    exact isOn_iff.mpr ⟨info, get_of_erase hinfo⟩
  exact ⟨h.enabled, fun a ha ↦ h.guid_ne a (hon a ha), fun a ha ↦ h.banned a (hon a ha),
    fun a info hinfo ↦ h.flag a info (get_of_erase hinfo)⟩

theorem Sound.erase (h : ch.Sound) (hne : guid ≠ ch._ownerGuid) :
    { ch with _playersStore := ch._playersStore.erase guid }.Sound := by
  have htidy := h.tidy.erase guid
  refine ⟨h.enabled, htidy.guid_ne, h.kept.owner.imp_right fun hon ↦ ?_,
    fun a info hinfo ↦ h.kept.flag a info (get_of_erase hinfo),
    fun info hinfo ↦ h.kept.moderator info (get_of_erase hinfo), htidy.banned⟩
  obtain ⟨info, hinfo⟩ := isOn_iff.mp hon
  refine isOn_iff.mpr ⟨info, ?_⟩
  exact (TreeMap.get_erase ch._playersStore guid _).trans ((if_neg hne).trans hinfo)

theorem sound_new (password : Name) (banned : Finset ObjectGuid) : (new password banned).Sound := by
  have hnone : ∀ guid, ¬ (new password banned).IsOn guid := fun guid ↦ ExtTreeMap.not_mem_empty
  have hget : ∀ (guid : ObjectGuid) (info : PlayerInfo),
      (new password banned)._playersStore[guid]? ≠ some info := fun guid info hinfo ↦
    hnone guid (isOn_iff.mpr ⟨info, hinfo⟩)
  exact ⟨rfl, fun guid hguid ↦ absurd hguid (hnone guid), .inl rfl,
    fun guid info hinfo ↦ absurd hinfo (hget guid info), fun info hinfo ↦ absurd hinfo (hget _ info),
    fun guid hguid ↦ absurd hguid (hnone guid)⟩

theorem Sound.setInvisible (h : ch.Sound) (on : Bool) : { ch with _isOwnerInvisible := on }.Sound :=
  ⟨h.enabled, h.guid_ne, h.kept.owner, h.kept.flag, h.kept.moderator, h.kept.banned⟩

theorem Sound.insert (h : ch.Sound) (info : PlayerInfo) (hnot : ¬ ch.IsOn guid) (hban : ¬ ch.IsBanned guid)
    (hne : guid ≠ ObjectGuid.Empty) (hinfo : info.IsOwner = false) :
    { ch with _playersStore := ch._playersStore.insert guid info }.Sound := by
  have howner : guid ≠ ch._ownerGuid := by
    rintro rfl
    exact h.kept.owner.elim hne hnot
  have hon : ∀ a, a ∈ ch._playersStore.insert guid info → a = guid ∨ ch.IsOn a := by
    intro a ha
    rw [ExtTreeMap.mem_insert, compare_eq_iff_eq] at ha
    exact ha.imp_left Eq.symm
  refine ⟨h.enabled, fun a ha ↦ ?_, h.kept.owner.imp_right fun ha ↦ ?_, fun a info' hinfo' ↦ ?_,
    fun info' hinfo' ↦ ?_, fun a ha ↦ ?_⟩
  · rcases hon a ha with rfl | ha
    · exact hne
    · exact h.guid_ne a ha
  · exact ExtTreeMap.mem_insert.mpr (.inr ha)
  · rw [TreeMap.get_insert] at hinfo'
    split at hinfo'
    · rename_i heq
      obtain rfl := Option.some.inj hinfo'
      rw [hinfo]
      exact iff_of_false Bool.false_ne_true fun ha ↦ howner (heq.trans ha)
    · exact h.kept.flag a info' hinfo'
  · have hinfo' := (TreeMap.get_insert ch._playersStore guid ch._ownerGuid info).symm.trans hinfo'
    rw [if_neg howner] at hinfo'
    exact h.kept.moderator info' hinfo'
  · rcases hon a ha with rfl | ha
    · exact hban
    · exact h.kept.banned a ha

theorem Sound.join (h : ch.Sound) (player : Player) (pass : Name) : (ch.JoinChannel player pass).Sound := by
  rw [JoinChannel]
  split
  · exact h
  rename_i hnot
  split
  · exact h
  rename_i hban
  split
  · exact h
  have hjoined := h.insert ⟨MEMBER_FLAG_NONE, !player.isGMVisible⟩ hnot hban player.guid_ne
    (PlayerInfo.isOwner_new _)
  dsimp only
  split
  · have hon : player.guid ∈ ch._playersStore.insert player.guid ⟨MEMBER_FLAG_NONE, !player.isGMVisible⟩ :=
      ExtTreeMap.mem_insert_self
    refine ((hjoined.setInvisible _).tidy.setOwner hon).modify (fun info ↦ ?_) fun _ info _ ↦ ?_
    · exact PlayerInfo.isOwner_setModerator info true
    · exact PlayerInfo.isModerator_setModerator info true
  · exact hjoined

theorem mem_of_heir {x : ObjectGuid × PlayerInfo} (h : ch.heir = some x) : ch.IsOn x.1 := by
  rw [heir, Option.or_eq_some_iff] at h
  have hmem : x ∈ ch._playersStore.toList := by
    rcases h with h | ⟨-, h⟩
    · exact List.mem_of_find?_eq_some h
    · exact List.mem_of_mem_head? h
  exact isOn_iff.mpr ⟨x.2, ExtTreeMap.mem_toList_iff_getElem?_eq_some.mp hmem⟩

theorem empty_of_heir (h : ch.heir = none) : ∀ guid, ¬ ch.IsOn guid := by
  intro guid hguid
  obtain ⟨info, hinfo⟩ := isOn_iff.mp hguid
  rw [heir, Option.or_eq_none_iff, List.head?_eq_none_iff] at h
  have hmem := ExtTreeMap.mem_toList_iff_getElem?_eq_some.mpr hinfo
  simp [h.2] at hmem

theorem Sound.leave (h : ch.Sound) (hrest : ∃ guid, (ch.LeaveChannel player).IsOn guid) :
    (ch.LeaveChannel player).Sound := by
  rw [LeaveChannel] at hrest ⊢
  split
  · exact h
  rename_i info hinfo
  rw [hinfo] at hrest
  dsimp only at hrest ⊢
  split
  · rename_i hchange
    rw [if_pos hchange] at hrest
    split
    · rename_i hnone
      rw [hnone] at hrest
      obtain ⟨guid, hguid⟩ := hrest
      exact absurd hguid (empty_of_heir hnone guid)
    · rename_i newOwner pinfo hheir
      have hgone := (h.tidy.erase player.guid).modify (f := (·.SetModerator true))
        (fun info hflag ↦ PlayerInfo.isOwner_setModerator info true ▸ hflag) newOwner
      have hsound := hgone.setOwner ((isOn_modify _ _ _).mpr (mem_of_heir hheir))
      split
      · exact hsound.setInvisible true
      · exact hsound
  · rename_i hkeep
    have hnot : ¬ info.IsOwner := fun howner ↦ hkeep ⟨howner, h.enabled⟩
    exact h.erase fun heq ↦ hnot ((h.kept.flag player.guid info hinfo).mpr heq)

/-- A member is expelled, and perhaps banned. -/
def expel (ch : Channel) (victim : ObjectGuid) (ban : Bool) : Channel :=
  { ch with
    _playersStore := ch._playersStore.erase victim
    _bannedStore := if ban then Insert.insert victim ch._bannedStore else ch._bannedStore }

theorem isOn_expel {victim a : ObjectGuid} {ban : Bool} : (ch.expel victim ban).IsOn a ↔ a ≠ victim ∧ ch.IsOn a := by
  have hmem : (ch.expel victim ban).IsOn a ↔ ¬ victim = a ∧ ch.IsOn a := by
    simp [IsOn, expel, ExtTreeMap.mem_erase]
  rw [hmem, ne_comm]

theorem Tidy.expel (h : ch.Tidy) (victim : ObjectGuid) (ban : Bool) : (ch.expel victim ban).Tidy where
  enabled := h.enabled
  guid_ne := fun a ha ↦ h.guid_ne a (isOn_expel.mp ha).2
  banned := by
    intro a ha hban
    obtain ⟨hne, hon⟩ := isOn_expel.mp ha
    cases ban with
    | false => exact h.banned a hon hban
    | true => exact h.banned a hon (Finset.mem_of_mem_insert_of_ne hban hne)
  flag := fun a info hinfo ↦ h.flag a info (get_of_erase hinfo)

theorem Sound.expel (h : ch.Sound) {victim : ObjectGuid} (hne : victim ≠ ch._ownerGuid) (ban : Bool) :
    (ch.expel victim ban).Sound := by
  have herased := h.erase hne
  have htidy := h.tidy.expel victim ban
  exact ⟨h.enabled, htidy.guid_ne, herased.kept.owner, herased.kept.flag, herased.kept.moderator, htidy.banned⟩

theorem kickOrBan_eq (ch : Channel) (player : Player) (victim : ObjectGuid) (ban : Bool) :
    ch.kickOrBan player victim ban =
      if !player.HasPermission .RBAC_PERM_CHANGE_CHANNEL_NOT_MODERATOR ∧ ch._ownerGuid = victim ∧
          player.guid ≠ ch._ownerGuid then
        (ch, false)
      else if ch._ownerGuid = victim ∧ ch._ownershipEnabled ∧ !(ch.expel victim ban)._playersStore.isEmpty then
        (((ch.expel victim ban).modify player.guid (·.SetModerator true)).SetOwner player.guid, player.guid = victim)
      else (ch.expel victim ban, false) := by
  cases ban <;> rfl

theorem Sound.kickOrBan (h : ch.Sound) {victim : ObjectGuid} {ban : Bool} (hplayer : ch.IsOn player.guid)
    (hself : ¬ (victim = player.guid ∧ ch._ownerGuid = player.guid)) :
    (ch.kickOrBan player victim ban).1.Sound ∧ (ch.kickOrBan player victim ban).2 = false := by
  rw [kickOrBan_eq]
  split
  · exact ⟨h, rfl⟩
  by_cases howner : ch._ownerGuid = victim
  · have hother : player.guid ≠ victim := fun heq ↦ hself ⟨heq.symm, howner.trans heq.symm⟩
    have hon : (ch.expel victim ban).IsOn player.guid := isOn_expel.mpr ⟨hother, hplayer⟩
    have hnonempty : (!(ch.expel victim ban)._playersStore.isEmpty) = true := by
      rw [Bool.not_eq_true', ExtTreeMap.isEmpty_eq_false_iff]
      intro hempty
      simp [IsOn, hempty, ExtTreeMap.not_mem_empty] at hon
    rw [if_pos ⟨howner, h.enabled, hnonempty⟩]
    refine ⟨Tidy.setOwner ?_ ((isOn_modify _ _ _).mpr hon), decide_eq_false hother⟩
    exact (h.tidy.expel victim ban).modify
      (fun info hflag ↦ PlayerInfo.isOwner_setModerator info true ▸ hflag) player.guid
  · rw [if_neg fun hchange ↦ howner hchange.1]
    exact ⟨h.expel (Ne.symm howner) ban, rfl⟩

/-! ## The handlers -/

theorem isOn_of_mayModerate (h : ch.mayModerate player) : ch.IsOn player.guid := by
  rw [mayModerate] at h
  split at h
  · cases h
  · rename_i info hinfo
    exact isOn_iff.mpr ⟨info, hinfo⟩

theorem mem_of_findMember {sender : Sender} {name : Name} {newp : Player} (h : ch.findMember sender name = some newp) :
    sender.players.FindConnectedPlayerByName name = some newp ∧ ch.IsOn newp.guid := by
  obtain ⟨hfind, hmember⟩ := Option.filter_eq_some_iff.mp h
  exact ⟨hfind, (of_decide_eq_true hmember).1⟩

/-- A player who finds himself by a name in the right form has this name. -/
theorem name_of_find {sender : Sender} {name : Name} {newp : Player} (hname : normalizePlayerName name = some name)
    (hfind : sender.players.FindConnectedPlayerByName name = some newp)
    (hsame : newp.guid = sender.player.guid) : name = sender.player.name := by
  rw [Players.FindConnectedPlayerByName, hname, Option.bind_some] at hfind
  have hmem : newp ∈ sender.players.list := List.mem_of_find?_eq_some hfind
  have heq : newp = sender.player := by
    have hsymm : Std.Symm fun p q : Player ↦ p.guid ≠ q.guid := ⟨fun _ _ h ↦ Ne.symm h⟩
    by_contra hne
    exact sender.players.unique.forall hmem sender.mem hne hsame
  have hfound := List.find?_some hfind
  rw [← heq]
  exact (of_decide_eq_true hfound).symm

theorem Sound.kickOrBanByName (h : ch.Sound) {sender : Sender} (name : Name) (ban : Bool)
    (hself : ¬ ∃ bad ∈ sender.players.FindConnectedPlayerByName name,
      bad.guid = sender.player.guid ∧ ch._ownerGuid = sender.player.guid) :
    (ch.KickOrBan sender name ban).1.Sound ∧ (ch.KickOrBan sender name ban).2 = false := by
  rw [KickOrBan]
  split
  · rename_i hmay
    split
    · exact ⟨h, rfl⟩
    rename_i bad hbad
    split
    · exact h.kickOrBan (isOn_of_mayModerate hmay) fun hsame ↦ hself ⟨bad, hbad, hsame⟩
    · exact ⟨h, rfl⟩
  · exact ⟨h, rfl⟩

theorem Sound.unBan (h : ch.Sound) (sender : Sender) (name : Name) : (ch.UnBan sender name).Sound := by
  rw [UnBan]
  split
  · split
    · exact h
    · exact ⟨h.enabled, h.guid_ne, h.kept.owner, h.kept.flag, h.kept.moderator,
        fun guid hon hban ↦ h.kept.banned guid hon (Finset.mem_of_mem_erase hban)⟩
  · exact h

theorem Sound.setMode (h : ch.Sound) {sender : Sender} {name : Name}
    (hname : normalizePlayerName name = some name) (mod set : Bool) :
    (ch.SetMode sender name mod set).Sound := by
  rw [SetMode]
  split
  · split
    · exact h
    rename_i hhimself
    split
    · exact h
    rename_i newp hnewp
    obtain ⟨hfind, -⟩ := mem_of_findMember hnewp
    split
    · exact h
    rename_i hothers
    split
    · rename_i hmod
      refine h.modify (fun info ↦ PlayerInfo.isOwner_setModerator info set) fun howner ↦ ?_
      -- only the owner may change his own flag, and he does not name himself
      have hguid : ch._ownerGuid = sender.player.guid := by
        by_contra hne
        exact hothers ⟨howner.symm, hne⟩
      exact absurd ⟨hguid.symm, name_of_find hname hfind (howner.trans hguid), hmod⟩ hhimself
    · exact h.modify (fun info ↦ PlayerInfo.isOwner_setMuted info set) fun _ info hmoderator ↦
        (PlayerInfo.isModerator_setMuted info set).trans hmoderator
  · exact h

theorem Sound.setOwnerByName (h : ch.Sound) (sender : Sender) (name : Name) :
    (ch.SetOwnerByName sender name).Sound := by
  rw [SetOwnerByName]
  split
  · split
    · exact h
    split
    · exact h
    rename_i newp hnewp
    obtain ⟨-, hon⟩ := mem_of_findMember hnewp
    have htidy := h.tidy.modify (f := (·.SetModerator true))
      (fun info hflag ↦ PlayerInfo.isOwner_setModerator info true ▸ hflag) newp.guid
    exact htidy.setOwner ((isOn_modify _ _ _).mpr hon)
  · exact h

theorem Sound.setInvisibleOf (h : ch.Sound) (player : Player) (on : Bool) : (ch.SetInvisible player on).Sound := by
  rw [SetInvisible]
  split
  · have hsound : (ch.modify player.guid (·.SetInvisible on)).Sound := h.modify (fun _ ↦ rfl) fun _ _ h ↦ h
    dsimp only
    split
    · exact hsound.setInvisible on
    · exact hsound
  · exact h

end Channel

/-! ## All runs -/

namespace ChannelName

variable {c : ChannelName}

/-- What holds of a channel name: no erased entry has been used, and the owner of the channel is kept. -/
structure OwnerKept (c : ChannelName) : Prop where
  usedErased : c.usedErased = false
  channel : ∀ ch, c.channel = some ch → ch.OwnerKept

structure Sound (c : ChannelName) : Prop where
  usedErased : c.usedErased = false
  channel : ∀ ch, c.channel = some ch → ch.Sound

theorem Sound.change (h : c.Sound) {f : Channel → Channel} (hf : ∀ ch : Channel, ch.Sound → (f ch).Sound) :
    (c.change f).Sound where
  usedErased := h.usedErased
  channel := by
    intro ch hch
    obtain ⟨ch', hch', rfl⟩ := Option.map_eq_some_iff.mp hch
    exact hf ch' (h.channel ch' hch')

theorem Sound.forTarget (h : c.Sound) {targetName : Name} {f : Name → Channel → Channel}
    (hf : ∀ name, normalizePlayerName name = some name → ∀ ch : Channel, ch.Sound → (f name ch).Sound) :
    (c.forTarget targetName f).Sound := by
  rw [ChannelName.forTarget]
  split
  · exact h
  · rename_i name hname
    exact h.change (hf name (normalizePlayerName_idem hname))

theorem Sound.kickOrBan (h : c.Sound) {sender : Sender} {targetName : Name} {ban : Bool}
    (hself : ¬ c.IsOwnerHimself sender targetName) : (c.kickOrBan sender targetName ban).Sound := by
  rw [ChannelName.kickOrBan]
  split
  · rename_i name ch hname hch
    obtain ⟨hsound, hused⟩ := (h.channel ch hch).kickOrBanByName name ban
      fun ⟨bad, hbad, hsame⟩ ↦ hself ⟨ch, hch, name, hname, bad, hbad, hsame⟩
    refine ⟨?_, fun ch' hch' ↦ Option.some.inj hch' ▸ hsound⟩
    simp [hused, h.usedErased]
  · exact h

theorem Sound.handle (h : c.Sound) {request : Request} (hok : c.KeepsOwner request) : (c.handle request).Sound := by
  cases request with
  | Join player pass savedPassword savedBans =>
    refine ⟨h.usedErased, fun ch hch ↦ ?_⟩
    obtain rfl := Option.some.inj hch
    cases hchannel : c.channel with
    | none => exact (Channel.sound_new savedPassword savedBans).join player pass
    | some ch => exact (h.channel ch hchannel).join player pass
  | Leave player =>
    refine ⟨h.usedErased, fun ch hch ↦ ?_⟩
    obtain ⟨hleft, hrest⟩ := Option.filter_eq_some_iff.mp hch
    obtain ⟨ch', hch', rfl⟩ := Option.map_eq_some_iff.mp hleft
    refine (h.channel ch' hch').leave ?_
    have hne : (ch'.LeaveChannel player)._playersStore ≠ ∅ :=
      ExtTreeMap.isEmpty_eq_false_iff.mp ((Bool.not_eq_true' _).mp hrest)
    by_contra hnone
    exact hne (ExtTreeMap.eq_empty_iff_forall_not_mem.mpr fun guid hguid ↦ hnone ⟨guid, hguid⟩)
  | Kick sender targetName => exact h.kickOrBan hok
  | Ban sender targetName => exact h.kickOrBan hok
  | UnBan sender targetName => exact h.forTarget fun name _ ch hch ↦ hch.unBan sender name
  | SetOwner sender targetName => exact h.forTarget fun name _ ch hch ↦ hch.setOwnerByName sender name
  | SetModerator sender targetName set => exact h.forTarget fun _ hname ch hch ↦ hch.setMode hname true set
  | SetMute sender targetName set => exact h.forTarget fun _ hname ch hch ↦ hch.setMode hname false set
  | SetInvisible player on => exact h.change fun ch hch ↦ hch.setInvisibleOf player on

/-- **The owner of a channel** is kept as long as no owner kicks or bans himself. -/
theorem ownerKept_of_reaches (h : channelMachine.Reaches KeepsOwner c) : c.OwnerKept := by
  have hsound : c.Sound := by
    refine h.invariant ⟨rfl, nofun⟩ fun c request _ hc hok hnext ↦ ?_
    obtain rfl := Option.some.inj hnext
    exact hc.handle hok
  exact ⟨hsound.usedErased, fun ch hch ↦ (hsound.channel ch hch).kept⟩

instance (c : ChannelName) (sender : Sender) (targetName : Name) :
    Decidable (c.IsOwnerHimself sender targetName) :=
  inferInstanceAs (Decidable (∃ ch ∈ c.channel, ∃ name ∈ normalizePlayerName targetName,
    ∃ bad ∈ sender.players.FindConnectedPlayerByName name,
      bad.guid = sender.player.guid ∧ ch._ownerGuid = sender.player.guid))

instance (c : ChannelName) : (request : Request) → Decidable (c.KeepsOwner request)
  | .Kick _ _ | .Ban _ _ => inferInstanceAs (Decidable (¬ _))
  | .Join _ _ _ _ | .Leave _ | .UnBan _ _ | .SetOwner _ _ | .SetModerator _ _ _ | .SetMute _ _ _
  | .SetInvisible _ _ => inferInstanceAs (Decidable True)

def samplePlayer (guid : ObjectGuid) (h : guid ≠ ObjectGuid.Empty) : Player :=
  ⟨guid, [0x41, 0x60 + guid], 0, fun _ ↦ false, true, h⟩

def samplePlayers : Players := ⟨[samplePlayer 1 (by decide), samplePlayer 2 (by decide)], by decide⟩

def sampleOwner : Sender := ⟨samplePlayers, samplePlayer 1 (by decide), List.mem_cons_self⟩

def sampleMember : Sender := ⟨samplePlayers, samplePlayer 2 (by decide), by simp [samplePlayers]⟩

/-- Two players join, the owner gives the channel to the other one, and is kicked by him. -/
def handOver : List Request :=
  [.Join sampleOwner.player [] [] ∅, .Join sampleMember.player [] [] ∅, .SetOwner sampleOwner [0x61, 0x62],
    .Kick sampleMember [0x41, 0x61]]

theorem ownerKept_of_reaches_handOver :
    ∃ c, channelMachine.Reaches KeepsOwner c ∧ c.channel.map (·._ownerGuid) = some 2 ∧ c.OwnerKept := by
  obtain ⟨c, hc, howner⟩ := channelMachine.exists_reaches KeepsOwner handOver
    (fun c ↦ c.channel.map (·._ownerGuid) = some 2) (by decide +kernel)
  exact ⟨c, hc, howner, ownerKept_of_reaches hc⟩

/-- Two players join, and the owner kicks himself. -/
def kickedHimself : List Request :=
  [.Join sampleOwner.player [] [] ∅, .Join sampleMember.player [] [] ∅, .Kick sampleOwner [0x41, 0x61]]

/-- **An owner who kicks himself.**  His erased entry is used. -/
theorem not_ownerKept_of_reachable : ¬ ∀ c, channelMachine.Reachable c → c.OwnerKept := by
  intro h
  obtain ⟨c, hc, hused⟩ := channelMachine.exists_reachable kickedHimself
    (fun c ↦ c.usedErased) (by decide +kernel)
  have hkept := (h c hc).usedErased
  simp [hused] at hkept

end ChannelName

end Gundrak.Chat
