import Gundrak.Calendar.CalendarMgr
import Gundrak.Util.Machine

/-!
# The ids of events and invites

`UniqueIds` says that everything that is alive has an id of its own, which is not zero and not waiting to be
used again.

An invite that is made for an announcement has the id zero, and one that is made for an event that does not
exist yet has the id that the client has sent.  Both ids are given back like any other, and are handed out
again later, or the counter wraps.  **`uniqueIds_of_reaches`** says that in all other runs `UniqueIds` holds at
any time, also between the steps of a request.
-/

namespace Gundrak.Calendar

/-- The ids in use next to those that wait. -/
structure Unique (p : IdPool) (used : List ℕ) : Prop where
  ne_zero : ∀ id ∈ used, id ≠ 0
  nodup : used.Nodup
  not_free : ∀ id ∈ used, id ∉ p.free
  free_nodup : p.free.Nodup
  le_max : ∀ id ∈ used ++ p.free, id ≤ p.max
  wrapped : p.wrapped = false

theorem Unique.of_fresh {p : IdPool} {used : List ℕ} (h : p.Fresh uint64Limit used) : Unique p used := by
  obtain ⟨hused, hfree, hdisjoint⟩ := List.nodup_append.mp h.nodup
  exact ⟨fun id hid ↦ h.ne_zero id (List.mem_append_left _ hid), hused,
    fun id hid hmem ↦ hdisjoint id hid id hmem rfl, hfree, h.le_max, h.wrapped⟩

namespace CalendarMgr

/-- The ids of all events. -/
def liveEventIds (mgr : CalendarMgr) : List ℕ := mgr._events.map (·._eventId)

/-- The ids of all invites that are alive. -/
def liveInviteIds (mgr : CalendarMgr) : List ℕ := (mgr.locals ++ (mgr.unstored ++ mgr._invites)).map (·._inviteId)

/-- The ids of all events and invites. -/
structure UniqueIds (mgr : CalendarMgr) : Prop where
  events : Unique mgr.eventIds mgr.liveEventIds
  invites : Unique mgr.inviteIds mgr.liveInviteIds

/-- What a run keeps. -/
structure FreshIds (mgr : CalendarMgr) : Prop where
  events : mgr.eventIds.Fresh uint64Limit mgr.liveEventIds
  invites : mgr.inviteIds.Fresh uint64Limit mgr.liveInviteIds
  locals : mgr.locals = []

theorem FreshIds.uniqueIds {mgr : CalendarMgr} (h : mgr.FreshIds) : mgr.UniqueIds :=
  ⟨.of_fresh h.events, .of_fresh h.invites⟩

/-- How many event ids are left. -/
def eventRoom (mgr : CalendarMgr) : ℕ := mgr.eventIds.room uint64Limit

/-- How many invite ids are left. -/
def inviteRoom (mgr : CalendarMgr) : ℕ := mgr.inviteIds.room uint64Limit

/-- What a request must not do: announce an event, invite to an event that does not exist yet, or use more ids
than are left. -/
def KeepsIds (mgr : CalendarMgr) : Request → Prop
  | .HandleCalendarAddEvent flags _ inviteCount =>
    flags &&& CALENDAR_FLAG_WITHOUT_INVITES = 0 ∧ 0 < mgr.eventRoom ∧
      min (inviteCount.getD 0) CALENDAR_MAX_INVITES ≤ mgr.inviteRoom
  | .HandleCalendarCopyEvent eventId =>
    0 < mgr.eventRoom ∧ (mgr.GetEventInvites eventId.toNat).length ≤ mgr.inviteRoom
  | .HandleCalendarEventInvite _ _ isPreInvite isGuildEvent inviteeGuildId guildId =>
    (isPreInvite → isGuildEvent ∧ inviteeGuildId = guildId) ∧ 0 < mgr.inviteRoom
  | .HandleCalendarEventSignup _ _ => 0 < mgr.inviteRoom
  | _ => True

/-! ## A step -/

/-- What a step needs. -/
def Fits (mgr : CalendarMgr) : Step → Prop
  | .newEvent _ _ => 0 < mgr.eventRoom
  | .newInvite _ _ => 0 < mgr.inviteRoom
  | .localInvite _ _ => False
  | .deleteEvent event => event ∈ mgr._events
  | .deleteInvite invite => invite ∈ mgr._invites
  | .endOfLocals => True
  | .setFlags _ _ => True

variable {mgr : CalendarMgr}

theorem FreshIds.run (h : mgr.FreshIds) {step : Step} (hfits : mgr.Fits step) : (mgr.run step).FreshIds := by
  cases step with
  | newEvent guildId flags =>
    refine ⟨(h.events.get hfits).perm ?_, h.invites, h.locals⟩
    rw [liveEventIds, liveEventIds, CalendarMgr.run, List.map_append]
    exact (List.perm_append_singleton _ _).symm
  | newInvite eventId stored =>
    let invite : CalendarInvite := ⟨(mgr.inviteIds.get uint64Limit).1, eventId⟩
    have hget := h.invites.get hfits
    cases stored with
    | true =>
      have hperm : (invite :: (mgr.locals ++ (mgr.unstored ++ mgr._invites))).Perm
          (mgr.locals ++ (mgr.unstored ++ (mgr._invites ++ [invite]))) := by
        rw [← List.append_assoc, ← List.append_assoc, ← List.append_assoc]
        exact (List.perm_append_singleton _ _).symm
      exact ⟨h.events, hget.perm (hperm.map CalendarInvite._inviteId), h.locals⟩
    | false =>
      have hperm : (invite :: (mgr.locals ++ (mgr.unstored ++ mgr._invites))).Perm
          (mgr.locals ++ (mgr.unstored ++ [invite] ++ mgr._invites)) := by
        rw [List.append_assoc mgr.unstored]
        exact List.perm_middle.symm.trans (List.perm_middle.symm.append_left _)
      exact ⟨h.events, hget.perm (hperm.map CalendarInvite._inviteId), h.locals⟩
  | localInvite inviteId eventId => exact hfits.elim
  | deleteEvent event =>
    have hperm := (List.perm_cons_erase hfits).map CalendarEvent._eventId
    exact ⟨(h.events.perm hperm).release, h.invites, h.locals⟩
  | deleteInvite invite =>
    have herase : (mgr.locals ++ (mgr.unstored ++ mgr._invites)).Perm
        (invite :: (mgr.locals ++ (mgr.unstored ++ mgr._invites.erase invite))) := by
      have hstored := ((List.perm_cons_erase hfits).append_left mgr.unstored).trans List.perm_middle
      exact (hstored.append_left mgr.locals).trans List.perm_middle
    exact ⟨h.events, (h.invites.perm (herase.map CalendarInvite._inviteId)).release, h.locals⟩
  | endOfLocals =>
    have hnone : mgr.run .endOfLocals = mgr := by
      rw [CalendarMgr.run, h.locals, List.foldl_nil, ← h.locals]
    rwa [hnone]
  | setFlags eventId flags =>
    refine ⟨h.events.perm ?_, h.invites, h.locals⟩
    rw [liveEventIds, liveEventIds, CalendarMgr.run, List.map_map]
    refine List.Perm.of_eq (List.map_congr_left fun event _ ↦ ?_)
    rw [Function.comp_apply]
    split <;> rfl

/-! ## A request -/

/-- Each of the steps has what it needs when it is made. -/
def FitsAll : CalendarMgr → List Step → Prop
  | _, [] => True
  | mgr, step :: steps => mgr.Fits step ∧ FitsAll (mgr.run step) steps

/-- **At any time** between the steps of a request. -/
theorem FreshIds.take {steps : List Step} (h : mgr.FreshIds) (hfits : mgr.FitsAll steps) (k : ℕ) :
    (mgr.runAll (steps.take k)).FreshIds := by
  induction steps generalizing mgr k with
  | nil =>
    rw [List.take_nil]
    exact h
  | cons step steps ih =>
    cases k with
    | zero => exact h
    | succ k => exact ih (h.run hfits.1) hfits.2 k

theorem inviteRoom_newInvite (mgr : CalendarMgr) (eventId : ℕ) (stored : Bool) :
    mgr.inviteRoom ≤ (mgr.run (.newInvite eventId stored)).inviteRoom + 1 := by
  have hroom := IdPool.room_le_get uint64Limit mgr.inviteIds
  cases stored with
  | true => exact hroom
  | false => exact hroom

theorem fitsAll_replicate (event : CalendarEvent) {n : ℕ} (h : n ≤ mgr.inviteRoom) :
    mgr.FitsAll (List.replicate n (addInvite event)) := by
  induction n generalizing mgr with
  | zero => exact trivial
  | succ n ih =>
    refine ⟨Nat.lt_of_lt_of_le n.succ_pos h, ih ?_⟩
    have hroom := inviteRoom_newInvite mgr event._eventId (!event.IsGuildAnnouncement)
    exact Nat.le_of_succ_le_succ (h.trans hroom)

theorem fitsAll_append {steps steps' : List Step} :
    mgr.FitsAll (steps ++ steps') ↔ mgr.FitsAll steps ∧ (mgr.runAll steps).FitsAll steps' := by
  induction steps generalizing mgr with
  | nil => exact (and_iff_right trivial).symm
  | cons step steps ih =>
    rw [List.cons_append, FitsAll, FitsAll, ih, and_assoc]
    rfl

theorem fitsAll_deleteInvites (invites : List CalendarInvite) (hnodup : invites.Nodup)
    (hmem : ∀ invite ∈ invites, invite ∈ mgr._invites) : mgr.FitsAll (invites.map .deleteInvite) ∧
      (mgr.runAll (invites.map .deleteInvite))._events = mgr._events := by
  induction invites generalizing mgr with
  | nil => exact ⟨trivial, rfl⟩
  | cons invite invites ih =>
    obtain ⟨hnot, hnodup⟩ := List.nodup_cons.mp hnodup
    have hrest : ∀ other ∈ invites, other ∈ (mgr.run (.deleteInvite invite))._invites := by
      intro other hother
      have hne : other ≠ invite := fun heq ↦ hnot (heq ▸ hother)
      exact (List.mem_erase_of_ne hne).mpr (hmem other (List.mem_cons_of_mem _ hother))
    obtain ⟨hfits, hevents⟩ := ih hnodup hrest
    exact ⟨⟨hmem invite List.mem_cons_self, hfits⟩, hevents⟩

theorem FreshIds.nodup_invites (h : mgr.FreshIds) : mgr._invites.Nodup := by
  have hlive : mgr.liveInviteIds.Nodup := (List.nodup_append.mp h.invites.nodup).1
  have hall : (mgr.locals ++ (mgr.unstored ++ mgr._invites)).Nodup := List.Nodup.of_map _ hlive
  exact (List.nodup_append.mp (List.nodup_append.mp hall).2.1).2.1

/-- **A request** that neither announces nor invites in advance, while there are enough ids. -/
theorem FreshIds.fitsAll (h : mgr.FreshIds) {request : Request} (hok : mgr.KeepsIds request) :
    mgr.FitsAll (mgr.steps request) := by
  cases request with
  | HandleCalendarAddEvent flags guildId inviteCount =>
    obtain ⟨hflags, hevents, hinvites⟩ := hok
    have hplain : ∀ guildId, (mgr.newEvent guildId flags).IsGuildAnnouncement = false := by
      intro guildId
      rw [CalendarEvent.IsGuildAnnouncement, newEvent, hflags]
      rfl
    simp only [steps, addEventSteps, hplain, Bool.false_eq_true, if_false]
    cases inviteCount with
    | none => exact ⟨hevents, List.mem_append_right _ (List.mem_singleton.mpr rfl), trivial⟩
    | some inviteCount => exact ⟨hevents, fitsAll_replicate _ hinvites⟩
  | HandleCalendarUpdateEvent eventId flags => exact ⟨trivial, trivial⟩
  | HandleCalendarCopyEvent eventId =>
    rw [steps]
    split
    · exact trivial
    · rename_i oldEvent hfound
      have hid : oldEvent._eventId = eventId.toNat := by simpa using List.find?_some hfound
      rw [copyEventSteps, List.map_const', hid]
      exact ⟨hok.1, fitsAll_replicate _ hok.2⟩
  | HandleCalendarEventInvite eventId inviteId isPreInvite isGuildEvent inviteeGuildId guildId =>
    obtain ⟨hpre, hroom⟩ := hok
    rw [steps, eventInviteSteps]
    cases isPreInvite with
    | false =>
      rw [Bool.not_false, if_pos rfl]
      split
      · exact trivial
      · split
        · exact trivial
        · exact ⟨hroom, trivial⟩
    | true =>
      obtain ⟨hguild, hsame⟩ := hpre rfl
      rw [Bool.not_true, if_neg Bool.false_ne_true, hguild, hsame, beq_self_eq_true, Bool.and_self, if_pos rfl]
      exact trivial
  | HandleCalendarEventSignup eventId guildId =>
    rw [steps]
    split
    · exact trivial
    · split
      · exact trivial
      · exact ⟨hok, trivial⟩
  | RemoveEvent eventId =>
    rw [steps]
    split
    · exact trivial
    · rename_i event hfound
      obtain ⟨hfits, hevents⟩ := fitsAll_deleteInvites (mgr.GetEventInvites eventId.toNat)
        (h.nodup_invites.filter _) fun invite hinvite ↦ (List.mem_filter.mp hinvite).1
      have hmem : event ∈ mgr._events := List.mem_of_find?_eq_some hfound
      rw [← hevents] at hmem
      exact fitsAll_append.mpr ⟨hfits, hmem, trivial⟩
  | RemoveInvite inviteId eventId =>
    rw [steps]
    split
    · rename_i invite _ hfound
      exact ⟨(List.mem_filter.mp (List.mem_of_find?_eq_some hfound)).1, trivial⟩
    · exact trivial

/-! ## All runs -/

/-- What is in the database when the server starts. -/
structure Rows where
  events : List CalendarEvent
  invites : List CalendarInvite

/-- The ids in the database are different, not zero, and fit into 64 bits. -/
structure Rows.Valid (rows : Rows) : Prop where
  events : (rows.events.map (·._eventId)).Nodup
  invites : (rows.invites.map (·._inviteId)).Nodup
  events_ne : ∀ id ∈ rows.events.map (·._eventId), id ≠ 0
  invites_ne : ∀ id ∈ rows.invites.map (·._inviteId), id ≠ 0
  events_lt : ∀ id ∈ rows.events.map (·._eventId), id < uint64Limit
  invites_lt : ∀ id ∈ rows.invites.map (·._inviteId), id < uint64Limit

/-- The calendar from the start of the server on. -/
def calendarMachine (rows : Rows) : Machine CalendarMgr Request where
  start := LoadFromDB rows.events rows.invites
  next mgr request := some (mgr.runAll (mgr.steps request))

theorem freshIds_load {rows : Rows} (h : rows.Valid) : (LoadFromDB rows.events rows.invites).FreshIds :=
  ⟨.load (by decide) h.events h.events_ne h.events_lt, .load (by decide) h.invites h.invites_ne h.invites_lt, rfl⟩

/-- **The ids of events and invites** at any time, also between the steps of a request. -/
theorem uniqueIds_of_reaches {rows : Rows} (hrows : rows.Valid)
    (h : (calendarMachine rows).Reaches KeepsIds mgr) :
    mgr.UniqueIds ∧ ∀ request, mgr.KeepsIds request → ∀ k,
      (mgr.runAll ((mgr.steps request).take k)).UniqueIds := by
  have hfresh : mgr.FreshIds := by
    refine h.invariant (freshIds_load hrows) fun mgr request _ hmgr hok hnext ↦ ?_
    obtain rfl := Option.some.inj hnext
    have htake := hmgr.take (hmgr.fitsAll hok) (mgr.steps request).length
    simpa using htake
  exact ⟨hfresh.uniqueIds, fun request hok k ↦ (hfresh.take (hfresh.fitsAll hok) k).uniqueIds⟩

instance (mgr : CalendarMgr) : (request : Request) → Decidable (mgr.KeepsIds request)
  | .HandleCalendarAddEvent _ _ _ => inferInstanceAs (Decidable (_ ∧ _))
  | .HandleCalendarCopyEvent _ => inferInstanceAs (Decidable (_ ∧ _))
  | .HandleCalendarEventInvite _ _ _ _ _ _ => inferInstanceAs (Decidable (_ ∧ _))
  | .HandleCalendarEventSignup _ _ => inferInstanceAs (Decidable (_ < _))
  | .HandleCalendarUpdateEvent _ _ | .RemoveEvent _ | .RemoveInvite _ _ => inferInstanceAs (Decidable True)

/-- An event with an invite, whose ids leave others free. -/
def sampleRows : Rows := ⟨[⟨2, 0, 0⟩], [⟨3, 2⟩]⟩

theorem valid_sampleRows : sampleRows.Valid := by
  constructor <;> decide

/-- An event is added and copied, and a player signs up for it and is removed. -/
def copiedEvent : List Request :=
  [.HandleCalendarAddEvent 0 0 (some 2), .HandleCalendarCopyEvent 1, .HandleCalendarEventSignup 3 0,
    .RemoveInvite 2 1, .RemoveEvent 2]

theorem uniqueIds_of_reaches_copiedEvent :
    ∃ mgr, (calendarMachine sampleRows).Reaches KeepsIds mgr ∧ mgr.liveInviteIds = [1, 4, 5, 6] ∧
      mgr.inviteIds.free = [2, 3] ∧ mgr.UniqueIds := by
  obtain ⟨mgr, hmgr, hlive, hfree⟩ := (calendarMachine sampleRows).exists_reaches KeepsIds copiedEvent
    (fun mgr ↦ mgr.liveInviteIds = [1, 4, 5, 6] ∧ mgr.inviteIds.free = [2, 3]) (by decide +kernel)
  exact ⟨mgr, hmgr, hlive, hfree, (uniqueIds_of_reaches valid_sampleRows hmgr).1⟩

/-- An event is announced between two events with an invite each. -/
def announcedEvent : List Request :=
  [.HandleCalendarAddEvent 0 0 (some 1), .HandleCalendarAddEvent CALENDAR_FLAG_WITHOUT_INVITES 0 none,
    .HandleCalendarAddEvent 0 0 (some 1)]

/-- **An announcement** makes an invite with the id zero, which is handed out later. -/
theorem not_uniqueIds_of_reachable :
    ¬ ∀ rows : Rows, rows.Valid → ∀ mgr, (calendarMachine rows).Reachable mgr → mgr.UniqueIds := by
  intro h
  obtain ⟨mgr, hmgr, hzero⟩ := (calendarMachine ⟨[], []⟩).exists_reachable announcedEvent
    (fun mgr ↦ 0 ∈ mgr.liveInviteIds) (by decide +kernel)
  have hvalid : (⟨[], []⟩ : Rows).Valid := by constructor <;> decide
  have hunique := h ⟨[], []⟩ hvalid mgr hmgr
  exact hunique.invites.ne_zero 0 hzero rfl

end CalendarMgr

end Gundrak.Calendar
