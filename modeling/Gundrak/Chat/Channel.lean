import Gundrak.Util.ObjectGuid
import Gundrak.Util.TreeMap

/-!
# Chat channels

A custom channel has members and banned players, and one of the members owns it.  Whom a member kicks, mutes or
makes the owner is told by a name, which the handlers bring into the form in which players are named before
the player is looked up.

What is sent to the players and written to the database is left out, and so are the built-in channels, which
nobody owns.  A name is the list of its wide characters.  `KickOrBan` keeps a reference to the entry of the
player who kicks; it also says here whether this entry is used after it has been erased.
-/

open Std (ExtTreeMap)

namespace Gundrak.Chat

/-! ## Names -/

/-- A name or a password. -/
abbrev Name := List ℕ

/-- `wcharToUpper`. -/
def wcharToUpper (wchar : ℕ) : ℕ :=
  if 0x61 ≤ wchar ∧ wchar ≤ 0x7A then wchar - 0x0020
  else if wchar = 0x00DF then 0x1E9E
  else if 0x00E0 ≤ wchar ∧ wchar ≤ 0x00F6 then wchar - 0x0020
  else if 0x00F8 ≤ wchar ∧ wchar ≤ 0x00FE then wchar - 0x0020
  else if 0x0101 ≤ wchar ∧ wchar ≤ 0x012F ∧ wchar % 2 = 1 then wchar - 0x0001
  else if 0x0430 ≤ wchar ∧ wchar ≤ 0x044F then wchar - 0x0020
  else if wchar = 0x0451 then 0x0401
  else wchar

/-- `wcharToLower`. -/
def wcharToLower (wchar : ℕ) : ℕ :=
  if 0x41 ≤ wchar ∧ wchar ≤ 0x5A then wchar + 0x0020
  else if 0x00C0 ≤ wchar ∧ wchar ≤ 0x00D6 then wchar + 0x0020
  else if 0x00D8 ≤ wchar ∧ wchar ≤ 0x00DE then wchar + 0x0020
  else if 0x0100 ≤ wchar ∧ wchar ≤ 0x012E ∧ wchar % 2 = 0 then wchar + 0x0001
  else if wchar = 0x1E9E then 0x00DF
  else if wchar = 0x0401 then 0x0451
  else if 0x0410 ≤ wchar ∧ wchar ≤ 0x042F then wchar + 0x0020
  else wchar

/-- `MAX_INTERNAL_PLAYER_NAME`. -/
def MAX_INTERNAL_PLAYER_NAME : ℕ := 15

/-- `normalizePlayerName`. -/
def normalizePlayerName : Name → Option Name
  | [] => none
  | wchar :: rest =>
    if (wchar :: rest).length > MAX_INTERNAL_PLAYER_NAME then none
    else some (wcharToUpper wchar :: rest.map wcharToLower)

theorem wcharToUpper_idem (wchar : ℕ) : wcharToUpper (wcharToUpper wchar) = wcharToUpper wchar := by
  simp only [wcharToUpper]
  grind

theorem wcharToLower_idem (wchar : ℕ) : wcharToLower (wcharToLower wchar) = wcharToLower wchar := by
  simp only [wcharToLower]
  grind

/-- A name in the form in which players are named stays as it is. -/
theorem normalizePlayerName_idem {name name' : Name} (h : normalizePlayerName name = some name') :
    normalizePlayerName name' = some name' := by
  cases name with
  | nil => cases h
  | cons wchar rest =>
    rw [normalizePlayerName, Option.ite_none_left_eq_some] at h
    obtain ⟨hlength, hname⟩ := h
    obtain rfl := Option.some.inj hname
    rw [normalizePlayerName, if_neg, wcharToUpper_idem, List.map_map]
    · exact congrArg (fun l ↦ some (wcharToUpper wchar :: l))
        (List.map_congr_left fun c _ ↦ wcharToLower_idem c)
    · rwa [List.length_cons, List.length_map]

/-! ## Players -/

/-- The permissions that matter here. -/
inductive RBACPermission where
  | RBAC_PERM_CHANGE_CHANNEL_NOT_MODERATOR
  | RBAC_PERM_TWO_SIDE_INTERACTION_CHANNEL
  deriving DecidableEq

/-- What a channel asks of a player. -/
structure Player where
  guid : ObjectGuid
  name : Name
  team : ℕ
  HasPermission : RBACPermission → Bool
  isGMVisible : Bool
  guid_ne : guid ≠ ObjectGuid.Empty

/-- The players that are connected. -/
structure Players where
  list : List Player
  unique : list.Pairwise fun p q ↦ p.guid ≠ q.guid

/-- `ObjectAccessor::FindConnectedPlayerByName`. -/
def Players.FindConnectedPlayerByName (players : Players) (name : Name) : Option Player :=
  (normalizePlayerName name).bind fun charName ↦ players.list.find? (·.name = charName)

/-- A player who sends something, with all that are connected. -/
structure Sender where
  players : Players
  player : Player
  mem : player ∈ players.list

/-! ## Channels -/

def MEMBER_FLAG_NONE : UInt8 := 0x00
def MEMBER_FLAG_OWNER : UInt8 := 0x01
def MEMBER_FLAG_MODERATOR : UInt8 := 0x02
def MEMBER_FLAG_MUTED : UInt8 := 0x08

/-- `Channel::PlayerInfo`. -/
structure PlayerInfo where
  flags : UInt8
  invisible : Bool

namespace PlayerInfo

variable (info : PlayerInfo)

def IsInvisible : Bool := info.invisible

def SetInvisible (on : Bool) : PlayerInfo := { info with invisible := on }

def HasFlag (flag : UInt8) : Bool := info.flags &&& flag != 0

/-- What all the setters of flags do. -/
def changeFlag (flag : UInt8) (state : Bool) : PlayerInfo :=
  { info with flags := if state then info.flags ||| flag else info.flags &&& ~~~flag }

def IsOwner : Bool := info.HasFlag MEMBER_FLAG_OWNER

def SetOwner (state : Bool) : PlayerInfo := info.changeFlag MEMBER_FLAG_OWNER state

def IsModerator : Bool := info.HasFlag MEMBER_FLAG_MODERATOR

def SetModerator (state : Bool) : PlayerInfo := info.changeFlag MEMBER_FLAG_MODERATOR state

def IsMuted : Bool := info.HasFlag MEMBER_FLAG_MUTED

def SetMuted (state : Bool) : PlayerInfo := info.changeFlag MEMBER_FLAG_MUTED state

end PlayerInfo

/-- `Channel`, of a custom channel. -/
structure Channel where
  _ownershipEnabled : Bool
  _isOwnerInvisible : Bool
  _ownerGuid : ObjectGuid
  _channelPassword : Name
  _playersStore : ExtTreeMap ObjectGuid PlayerInfo
  _bannedStore : Finset ObjectGuid

namespace Channel

variable (ch : Channel)

/-- A custom channel that has just been made, with what the database knows of it. -/
def new (password : Name) (banned : Finset ObjectGuid) : Channel := ⟨true, false, ObjectGuid.Empty, password, ∅, banned⟩

def IsOn (who : ObjectGuid) : Prop := who ∈ ch._playersStore

def IsBanned (guid : ObjectGuid) : Prop := guid ∈ ch._bannedStore

instance (who : ObjectGuid) : Decidable (ch.IsOn who) := inferInstanceAs (Decidable (who ∈ ch._playersStore))

instance (guid : ObjectGuid) : Decidable (ch.IsBanned guid) := inferInstanceAs (Decidable (guid ∈ ch._bannedStore))

/-- Change the entry of a member. -/
def modify (guid : ObjectGuid) (f : PlayerInfo → PlayerInfo) : Channel :=
  { ch with _playersStore := ch._playersStore.modify guid f }

/-- `Channel::SetOwner`, with the guid of the new owner. -/
def SetOwner (guid : ObjectGuid) : Channel :=
  let ch := if ch._ownerGuid ≠ ObjectGuid.Empty then ch.modify ch._ownerGuid (·.SetOwner false) else ch
  let ch := { ch with _ownerGuid := guid }
  if guid ≠ ObjectGuid.Empty then ch.modify guid fun info ↦ (info.SetModerator true).SetOwner true else ch

/-- `Channel::JoinChannel`. -/
def JoinChannel (player : Player) (pass : Name) : Channel :=
  if ch.IsOn player.guid then ch
  else if ch.IsBanned player.guid then ch
  else if ch._channelPassword ≠ [] ∧ pass ≠ ch._channelPassword then ch
  else
    let newChannel := ch._playersStore.isEmpty
    let pinfo : PlayerInfo := ⟨MEMBER_FLAG_NONE, !player.isGMVisible⟩
    let ch := { ch with _playersStore := ch._playersStore.insert player.guid pinfo }
    if ch._ownershipEnabled ∧ (newChannel ∨ !pinfo.IsInvisible) ∧
        (ch._ownerGuid = ObjectGuid.Empty ∨ ch._isOwnerInvisible) then
      ({ ch with _isOwnerInvisible := pinfo.IsInvisible }.SetOwner player.guid).modify player.guid
        (·.SetModerator true)
    else ch

/-- The member who is to be the owner when the owner has left. -/
def heir : Option (ObjectGuid × PlayerInfo) :=
  (ch._playersStore.toList.find? (!·.2.IsInvisible)).or ch._playersStore.toList.head?

/-- `Channel::LeaveChannel`. -/
def LeaveChannel (player : Player) : Channel :=
  match ch._playersStore[player.guid]? with
  | none => ch
  | some info =>
    let changeowner := info.IsOwner
    let ch := { ch with _playersStore := ch._playersStore.erase player.guid }
    if changeowner ∧ ch._ownershipEnabled then
      match ch.heir with
      | none => ch
      | some (newOwner, pinfo) =>
        let ch := (ch.modify newOwner (·.SetModerator true)).SetOwner newOwner
        if pinfo.IsInvisible then { ch with _isOwnerInvisible := true } else ch
    else ch

/-- A member who is a moderator, or may do what moderators do. -/
def mayModerate (player : Player) : Bool :=
  match ch._playersStore[player.guid]? with
  | none => false
  | some info => info.IsModerator || player.HasPermission .RBAC_PERM_CHANGE_CHANNEL_NOT_MODERATOR

/-- `Channel::KickOrBan` of a player who has been found, and whether the entry of the other one is used after
it has been erased. -/
def kickOrBan (player : Player) (victim : ObjectGuid) (ban : Bool) : Channel × Bool :=
  let good := player.guid
  let changeowner := ch._ownerGuid = victim
  if !player.HasPermission .RBAC_PERM_CHANGE_CHANNEL_NOT_MODERATOR ∧ changeowner ∧ good ≠ ch._ownerGuid then
    (ch, false)
  else
    let ch := if ban then { ch with _bannedStore := insert victim ch._bannedStore } else ch
    let ch := { ch with _playersStore := ch._playersStore.erase victim }
    if changeowner ∧ ch._ownershipEnabled ∧ !ch._playersStore.isEmpty then
      ((ch.modify good (·.SetModerator true)).SetOwner good, good = victim)
    else (ch, false)

/-- `Channel::KickOrBan`. -/
def KickOrBan (sender : Sender) (badname : Name) (ban : Bool) : Channel × Bool :=
  if ch.mayModerate sender.player then
    match sender.players.FindConnectedPlayerByName badname with
    | none => (ch, false)
    | some bad => if ch.IsOn bad.guid then ch.kickOrBan sender.player bad.guid ban else (ch, false)
  else (ch, false)

/-- `Channel::UnBan`. -/
def UnBan (sender : Sender) (badname : Name) : Channel :=
  if ch.mayModerate sender.player then
    match sender.players.FindConnectedPlayerByName badname with
    | none => ch
    | some bad => { ch with _bannedStore := ch._bannedStore.erase bad.guid }
  else ch

/-- The player with a name, if he is a member and may be dealt with. -/
def findMember (sender : Sender) (name : Name) : Option Player :=
  (sender.players.FindConnectedPlayerByName name).filter fun newp ↦
    ch.IsOn newp.guid ∧
      (sender.player.team = newp.team ∨ (sender.player.HasPermission .RBAC_PERM_TWO_SIDE_INTERACTION_CHANNEL ∧
        newp.HasPermission .RBAC_PERM_TWO_SIDE_INTERACTION_CHANNEL))

/-- `Channel::SetMode`. -/
def SetMode (sender : Sender) (p2n : Name) (mod set : Bool) : Channel :=
  let guid := sender.player.guid
  if ch.mayModerate sender.player then
    if guid = ch._ownerGuid ∧ p2n = sender.player.name ∧ mod then ch
    else
      match ch.findMember sender p2n with
      | none => ch
      | some newp =>
        if ch._ownerGuid = newp.guid ∧ ch._ownerGuid ≠ guid then ch
        else if mod then ch.modify newp.guid (·.SetModerator set)
        else ch.modify newp.guid (·.SetMuted set)
  else ch

/-- `Channel::SetInvisible`. -/
def SetInvisible (player : Player) (on : Bool) : Channel :=
  if ch.IsOn player.guid then
    let ch := ch.modify player.guid (·.SetInvisible on)
    if ch._ownerGuid = player.guid then { ch with _isOwnerInvisible := on } else ch
  else ch

/-- `Channel::SetOwner`, with the name of the new owner. -/
def SetOwnerByName (sender : Sender) (newname : Name) : Channel :=
  let guid := sender.player.guid
  if ch.IsOn guid then
    if !sender.player.HasPermission .RBAC_PERM_CHANGE_CHANNEL_NOT_MODERATOR ∧ guid ≠ ch._ownerGuid then ch
    else
      match ch.findMember sender newname with
      | none => ch
      | some newp => (ch.modify newp.guid (·.SetModerator true)).SetOwner newp.guid
  else ch

end Channel

end Gundrak.Chat
