import Gundrak.Util.IdPool

/-!
# Calendar events and invites

`CalendarMgr` has the events and the invites to them, and hands out their ids.  An id is given back by the
destructor of the event or invite that has it, and this is so for invites that are never part of the calendar
as well: `HandleCalendarAddEvent` makes one with the id zero to announce an event, and
`HandleCalendarEventInvite` makes one with the id that the client has sent.

What a request does is a list of steps, each of which makes or destroys one object.  The calendar here knows
all objects that are alive: those which are stored, the invites that have been made for an announcement, which
`AddInvite` does not store and nobody destroys, and those on the stack of a handler.  What is sent and what is
written to the database is left out, and of an event and an invite all that the ids do not depend on.  The
invites of all events are in one list here.
-/

namespace Gundrak.Calendar

/-- `uint64` counts up to here. -/
def uint64Limit : ℕ := 18446744073709551616

/-- `CALENDAR_FLAG_WITHOUT_INVITES`. -/
def CALENDAR_FLAG_WITHOUT_INVITES : UInt32 := 0x040

/-- `CALENDAR_FLAG_GUILD_EVENT`. -/
def CALENDAR_FLAG_GUILD_EVENT : UInt32 := 0x400

/-- `CALENDAR_MAX_INVITES`, as many invites does an event begin with. -/
def CALENDAR_MAX_INVITES : ℕ := 100

/-- What is used of `CalendarInvite`. -/
structure CalendarInvite where
  _inviteId : ℕ
  _eventId : ℕ
  deriving DecidableEq

/-- What is used of `CalendarEvent`. -/
structure CalendarEvent where
  _eventId : ℕ
  _guildId : ℕ
  _flags : UInt32
  deriving DecidableEq

namespace CalendarEvent

variable (event : CalendarEvent)

def IsGuildEvent : Bool := event._flags &&& CALENDAR_FLAG_GUILD_EVENT != 0

def IsGuildAnnouncement : Bool := event._flags &&& CALENDAR_FLAG_WITHOUT_INVITES != 0

end CalendarEvent

/-- `CalendarMgr`, with all invites that are alive without being stored. -/
structure CalendarMgr where
  _events : List CalendarEvent
  _invites : List CalendarInvite
  /-- `_freeEventIds` and `_maxEventId` -/
  eventIds : IdPool
  /-- `_freeInviteIds` and `_maxInviteId` -/
  inviteIds : IdPool
  /-- invites to announcements -/
  unstored : List CalendarInvite
  /-- invites on the stack -/
  locals : List CalendarInvite

namespace CalendarMgr

variable (mgr : CalendarMgr)

/-- `CalendarMgr::LoadFromDB`, of the events and the invites in the database. -/
def LoadFromDB (events : List CalendarEvent) (invites : List CalendarInvite) : CalendarMgr :=
  ⟨events, invites, .load (events.map (·._eventId)), .load (invites.map (·._inviteId)), [], []⟩

/-- `CalendarMgr::GetEvent`. -/
def GetEvent (eventId : ℕ) : Option CalendarEvent := mgr._events.find? (·._eventId = eventId)

/-- `CalendarMgr::GetEventInvites`. -/
def GetEventInvites (eventId : ℕ) : List CalendarInvite := mgr._invites.filter (·._eventId = eventId)

/-! ## Steps -/

/-- An object is made or destroyed. -/
inductive Step where
  /-- an event with a free id -/
  | newEvent (guildId : ℕ) (flags : UInt32)
  /-- an invite with a free id, which is stored or not -/
  | newInvite (eventId : ℕ) (stored : Bool)
  /-- an invite on the stack, with any id -/
  | localInvite (inviteId eventId : ℕ)
  | deleteEvent (event : CalendarEvent)
  | deleteInvite (invite : CalendarInvite)
  | endOfLocals
  /-- an event gets other flags -/
  | setFlags (eventId : ℕ) (flags : UInt32)

/-- What a step does. -/
def run : Step → CalendarMgr
  | .newEvent guildId flags =>
    let id := mgr.eventIds.get uint64Limit
    { mgr with eventIds := id.2, _events := mgr._events ++ [⟨id.1, guildId, flags⟩] }
  | .newInvite eventId stored =>
    let id := mgr.inviteIds.get uint64Limit
    let invite : CalendarInvite := ⟨id.1, eventId⟩
    if stored then { mgr with inviteIds := id.2, _invites := mgr._invites ++ [invite] }
    else { mgr with inviteIds := id.2, unstored := mgr.unstored ++ [invite] }
  | .localInvite inviteId eventId => { mgr with locals := ⟨inviteId, eventId⟩ :: mgr.locals }
  | .deleteEvent event =>
    { mgr with
      _events := mgr._events.erase event
      eventIds := mgr.eventIds.release uint64Limit event._eventId }
  | .deleteInvite invite =>
    { mgr with
      _invites := mgr._invites.erase invite
      inviteIds := mgr.inviteIds.release uint64Limit invite._inviteId }
  | .endOfLocals =>
    { mgr with
      locals := []
      inviteIds := mgr.locals.foldl (fun p invite ↦ p.release uint64Limit invite._inviteId) mgr.inviteIds }
  | .setFlags eventId flags =>
    { mgr with
      _events := mgr._events.map fun event ↦
        if event._eventId = eventId then { event with _flags := flags } else event }

/-! ## Requests -/

/-- What the players and the server ask for.  The invitee of an invite has been found and may be invited. -/
inductive Request where
  /-- the flags and the guild of the creator, and how many invitees could be read, or none if the packet is too
  short -/
  | HandleCalendarAddEvent (flags : UInt32) (guildId : ℕ) (inviteCount : Option ℕ)
  | HandleCalendarUpdateEvent (eventId : UInt64) (flags : UInt32)
  | HandleCalendarCopyEvent (eventId : UInt64)
  | HandleCalendarEventInvite (eventId inviteId : UInt64) (isPreInvite isGuildEvent : Bool)
    (inviteeGuildId guildId : ℕ)
  | HandleCalendarEventSignup (eventId : UInt64) (guildId : ℕ)
  | RemoveEvent (eventId : UInt64)
  | RemoveInvite (inviteId eventId : UInt64)

/-- `CalendarMgr::AddInvite`, of a new invite. -/
def addInvite (event : CalendarEvent) : Step := .newInvite event._eventId (!event.IsGuildAnnouncement)

/-- The event that a request makes. -/
def newEvent (guildId : ℕ) (flags : UInt32) : CalendarEvent := ⟨(mgr.eventIds.get uint64Limit).1, guildId, flags⟩

/-- `WorldSession::HandleCalendarAddEvent`. -/
def addEventSteps (flags : UInt32) (guildId : ℕ) (inviteCount : Option ℕ) : List Step :=
  let event := mgr.newEvent 0 flags
  let guildId := if event.IsGuildEvent || event.IsGuildAnnouncement then guildId else 0
  let event := mgr.newEvent guildId flags
  if event.IsGuildAnnouncement then
    [.newEvent guildId flags, .localInvite 0 event._eventId, .endOfLocals]
  else
    match inviteCount with
    | none => [.newEvent guildId flags, .deleteEvent event]
    | some inviteCount =>
      .newEvent guildId flags :: List.replicate (min inviteCount CALENDAR_MAX_INVITES) (addInvite event)

/-- `WorldSession::HandleCalendarCopyEvent`, of an event that has been found. -/
def copyEventSteps (oldEvent : CalendarEvent) : List Step :=
  let event := mgr.newEvent oldEvent._guildId oldEvent._flags
  .newEvent oldEvent._guildId oldEvent._flags :: (mgr.GetEventInvites oldEvent._eventId).map fun _ ↦ addInvite event

/-- `WorldSession::HandleCalendarEventInvite`. -/
def eventInviteSteps (eventId inviteId : ℕ) (isPreInvite isGuildEvent : Bool)
    (inviteeGuildId guildId : ℕ) : List Step :=
  if !isPreInvite then
    match mgr.GetEvent eventId with
    | none => []
    | some event => if event.IsGuildEvent && event._guildId == inviteeGuildId then [] else [addInvite event]
  else if isGuildEvent && inviteeGuildId == guildId then []
  else [.localInvite inviteId 0, .endOfLocals]

/-- The steps of a request. -/
def steps : Request → List Step
  | .HandleCalendarAddEvent flags guildId inviteCount => mgr.addEventSteps flags guildId inviteCount
  | .HandleCalendarUpdateEvent eventId flags => [.setFlags eventId.toNat flags]
  | .HandleCalendarCopyEvent eventId =>
    match mgr.GetEvent eventId.toNat with
    | none => []
    | some oldEvent => mgr.copyEventSteps oldEvent
  | .HandleCalendarEventInvite eventId inviteId isPreInvite isGuildEvent inviteeGuildId guildId =>
    mgr.eventInviteSteps eventId.toNat inviteId.toNat isPreInvite isGuildEvent inviteeGuildId guildId
  | .HandleCalendarEventSignup eventId guildId =>
    match mgr.GetEvent eventId.toNat with
    | none => []
    | some event => if event.IsGuildEvent && event._guildId != guildId then [] else [addInvite event]
  | .RemoveEvent eventId =>
    match mgr.GetEvent eventId.toNat with
    | none => []
    | some event =>
      (mgr.GetEventInvites eventId.toNat).map Step.deleteInvite ++ [.deleteEvent event]
  | .RemoveInvite inviteId eventId =>
    match mgr.GetEvent eventId.toNat, (mgr.GetEventInvites eventId.toNat).find? (·._inviteId = inviteId.toNat) with
    | some _, some invite => [.deleteInvite invite]
    | _, _ => []

/-- Make some steps. -/
def runAll (steps : List Step) : CalendarMgr := steps.foldl run mgr

end CalendarMgr

end Gundrak.Calendar
