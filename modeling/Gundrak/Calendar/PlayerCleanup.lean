import Gundrak.Calendar.CalendarMgr
import Gundrak.Util.ObjectGuid

/-!
# Removing what a player has in the calendar

`RemoveAllPlayerEventsAndInvites` and `RemovePlayerGuildEventsAndSignups` first walk along the events and
remove some of them.  `RemoveEvent` erases and destroys the element that the iterator points at, and then the
loop advances it.  After that they walk along a copy of the invites of the player, each of which is searched
for by its id among the invites of its event.

* `cleanUp`: both functions.  It has no result if something that is erased is used.
* **`Contents.removesExactly_iff`**: they are right only if there is no event to remove, and no invite of somebody else
  is found first.
-/

namespace Gundrak.Calendar

/-- An event where it is in memory. -/
structure StoredEvent extends CalendarEvent where
  address : ℕ
  _creatorGUID : ObjectGuid
  deriving DecidableEq

/-- An invite where it is in memory. -/
structure StoredInvite extends CalendarInvite where
  address : ℕ
  _invitee : ObjectGuid
  deriving DecidableEq

/-- The events in the order of the set, and the invites, those of one event after those of another one. -/
structure Contents where
  _events : List StoredEvent
  _invites : List StoredInvite
  deriving DecidableEq

namespace Contents

variable (c : Contents)

/-- `CalendarMgr::GetEvent`. -/
def GetEvent (eventId : ℕ) : Option StoredEvent := c._events.find? (·._eventId = eventId)

/-- `CalendarMgr::GetPlayerInvites`. -/
def GetPlayerInvites (guid : ObjectGuid) : List StoredInvite := c._invites.filter (·._invitee = guid)

/-- `CalendarMgr::RemoveEvent`, without the mails and what is sent. -/
def RemoveEvent (eventId : ℕ) : Contents :=
  match c.GetEvent eventId with
  | none => c
  | some event => ⟨c._events.filter (· ≠ event), c._invites.filter (·._eventId ≠ eventId)⟩

/-- `CalendarMgr::RemoveInvite`. -/
def RemoveInvite (inviteId eventId : ℕ) : Contents :=
  match c.GetEvent eventId with
  | none => c
  | some _ => { c with _invites := c._invites.eraseP fun i ↦ i._eventId = eventId ∧ i._inviteId = inviteId }

/-- The loop over the events, of which those that are left are still to come.  An iterator whose element has
been erased must not be advanced. -/
def removeEvents (toRemove : StoredEvent → Bool) : List StoredEvent → Contents → Option Contents
  | [], c => some c
  | event :: todo, c =>
    if event ∉ c._events then removeEvents toRemove todo c
    else
      let c := if toRemove event then c.RemoveEvent event._eventId else c
      if event ∈ c._events then removeEvents toRemove todo c else none

/-- The loop over the invites of the player. -/
def removeInvites (isSignup : StoredEvent → Bool) : List StoredInvite → Contents → Option Contents
  | [], c => some c
  | invite :: todo, c =>
    if invite ∉ c._invites then none
    else removeInvites isSignup todo
      (if (c.GetEvent invite._eventId).any isSignup then c.RemoveInvite invite._inviteId invite._eventId else c)

/-- The one loop and the other one. -/
def cleanUp (toRemove isSignup : StoredEvent → Bool) (guid : ObjectGuid) : Option Contents := do
  let c ← removeEvents toRemove c._events c
  removeInvites isSignup (c.GetPlayerInvites guid) c

/-- An event of the player. -/
def isCreatedBy (guid : ObjectGuid) (e : StoredEvent) : Bool := e._creatorGUID = guid

/-- A guild event or an announcement of the player. -/
def isGuildCreatedBy (guid : ObjectGuid) (e : StoredEvent) : Bool :=
  e._creatorGUID = guid ∧ (e.IsGuildEvent ∨ e.IsGuildAnnouncement)

def isOfGuild (guildId : ℕ) (e : StoredEvent) : Bool := e.IsGuildEvent ∧ e._guildId = guildId

/-- `CalendarMgr::RemoveAllPlayerEventsAndInvites`. -/
def RemoveAllPlayerEventsAndInvites (guid : ObjectGuid) : Option Contents :=
  c.cleanUp (isCreatedBy guid) (fun _ ↦ true) guid

/-- `CalendarMgr::RemovePlayerGuildEventsAndSignups`. -/
def RemovePlayerGuildEventsAndSignups (guid : ObjectGuid) (guildId : ℕ) : Option Contents :=
  c.cleanUp (isGuildCreatedBy guid) (isOfGuild guildId) guid

/-- The two invites have the same id and are to the same event. -/
abbrev SameId (i j : StoredInvite) : Prop := i._eventId = j._eventId ∧ i._inviteId = j._inviteId

/-- An invite of the player to an event that counts. -/
def IsOwn (isSignup : StoredEvent → Bool) (guid : ObjectGuid) (invite : StoredInvite) : Bool :=
  invite._invitee = guid ∧ (c.GetEvent invite._eventId).any isSignup

/-- Exactly these events go, with all their invites, and exactly these invites to the other ones. -/
def without (toRemove isSignup : StoredEvent → Bool) (guid : ObjectGuid) : Contents :=
  ⟨c._events.filter fun e ↦ !toRemove e, c._invites.filter fun i ↦ !c.IsOwn isSignup guid i &&
      !c._events.any fun e ↦ toRemove e && e._eventId == i._eventId⟩

/-- No such event is there, and of the invites with one id to one event, those of the player come first. -/
def NothingInTheWay (toRemove isSignup : StoredEvent → Bool) (guid : ObjectGuid) : Prop :=
  (∀ e ∈ c._events, toRemove e = false) ∧
    c._invites.Pairwise fun i j ↦ c.IsOwn isSignup guid i = false → c.IsOwn isSignup guid j = true → ¬ SameId i j

variable {c} {toRemove isSignup : StoredEvent → Bool} {guid : ObjectGuid}

/-! ## The events -/

theorem removeEvents_append {pre : List StoredEvent} (h : ∀ e ∈ pre, toRemove e = false) (todo : List StoredEvent) :
    removeEvents toRemove (pre ++ todo) c = removeEvents toRemove todo c := by
  induction pre with
  | nil => rfl
  | cons event pre ih =>
    have hevent := h event List.mem_cons_self
    have hpre := ih fun e he ↦ h e (List.mem_cons_of_mem _ he)
    by_cases hmem : event ∈ c._events <;> simp [removeEvents, hevent, hmem, hpre]

theorem events_RemoveEvent (eventId : ℕ) : (c.RemoveEvent eventId)._events ⊆ c._events := by
  rw [RemoveEvent]
  split <;> simp

theorem events_removeEvents {todo : List StoredEvent} {c' : Contents} (h : removeEvents toRemove todo c = some c') :
    c'._events ⊆ c._events := by
  induction todo generalizing c with
  | nil =>
    obtain rfl : c = c' := Option.some_inj.mp h
    exact List.Subset.refl _
  | cons event todo ih =>
    rw [removeEvents] at h
    split at h
    · exact ih h
    · dsimp only at h
      split_ifs at h
      · exact List.Subset.trans (ih h) (events_RemoveEvent _)
      · exact ih h

theorem events_RemoveInvite (inviteId eventId : ℕ) : (c.RemoveInvite inviteId eventId)._events = c._events := by
  rw [RemoveInvite]
  split <;> rfl

theorem events_removeInvites {todo : List StoredInvite} {c' : Contents}
    (h : removeInvites isSignup todo c = some c') : c'._events = c._events := by
  induction todo generalizing c with
  | nil =>
    obtain rfl : c = c' := Option.some_inj.mp h
    rfl
  | cons invite todo ih =>
    rw [removeInvites] at h
    split_ifs at h
    · exact (ih h).trans (events_RemoveInvite _ _)
    · exact ih h

/-- **An event that is to be removed** is removed under the iterator, or another one is removed instead of it. -/
theorem exists_removed (hevent : ∃ e ∈ c._events, toRemove e = true) {c' : Contents}
    (h : removeEvents toRemove c._events c = some c') :
    ∃ e ∈ c._events, toRemove e = false ∧ e ∉ c'._events := by
  obtain ⟨event, hfind⟩ := Option.isSome_iff_exists.mp (List.find?_isSome.mpr hevent)
  obtain ⟨hremove, pre, post, hevents, hpre⟩ := List.find?_eq_some_iff_append.mp hfind
  have hpre' : ∀ e ∈ pre, toRemove e = false := fun e he ↦ by simpa using hpre e he
  have hmem : event ∈ c._events := by simp [hevents]
  obtain ⟨found, hfound⟩ : ∃ found, c.GetEvent event._eventId = some found := by
    refine Option.isSome_iff_exists.mp (List.find?_isSome.mpr ⟨event, hmem, by simp⟩)
  have hgone : found ∉ (c.RemoveEvent event._eventId)._events := by simp [RemoveEvent, hfound]
  rw [hevents, removeEvents_append hpre', removeEvents, if_neg (not_not.mpr hmem), if_pos hremove] at h
  dsimp only at h
  split at h
  · rename_i hstays
    -- the one that has been found instead stands before it
    have hother : found ∈ pre := by
      rw [GetEvent, hevents, List.find?_append, List.find?_cons_of_pos (by simp)] at hfound
      rcases hpre : pre.find? (·._eventId = event._eventId) with _ | other
      · rw [hpre, Option.none_or, Option.some_inj] at hfound
        exact absurd (hfound ▸ hstays) hgone
      · rw [hpre, Option.some_or, Option.some_inj] at hfound
        exact hfound ▸ List.mem_of_find?_eq_some hpre
    refine ⟨found, by simp [hevents, hother], hpre' found hother, fun hfound' ↦ ?_⟩
    exact hgone (events_removeEvents h hfound')
  · cases h

/-! ## The invites -/

theorem IsOwn_RemoveInvite (inviteId eventId : ℕ) :
    (c.RemoveInvite inviteId eventId).IsOwn isSignup guid = c.IsOwn isSignup guid := by
  funext i
  exact decide_eq_decide.mpr (by rw [GetEvent, events_RemoveInvite, GetEvent])

theorem invites_RemoveInvite {i : StoredInvite} (h : c.IsOwn isSignup guid i = true) :
    (c.RemoveInvite i._inviteId i._eventId)._invites = c._invites.eraseP (SameId · i) := by
  obtain ⟨-, h⟩ : i._invitee = guid ∧ (c.GetEvent i._eventId).any isSignup = true := by simpa [IsOwn] using h
  rcases hevent : c.GetEvent i._eventId with _ | event
  · simp [hevent] at h
  · simp [RemoveInvite, hevent]

theorem invites_removeInvites {todo : List StoredInvite} {c' : Contents}
    (h : removeInvites isSignup todo c = some c') : c'._invites.Sublist c._invites := by
  induction todo generalizing c with
  | nil =>
    obtain rfl : c = c' := Option.some_inj.mp h
    exact List.Sublist.refl _
  | cons invite todo ih =>
    rw [removeInvites] at h
    split_ifs at h
    · refine (ih h).trans ?_
      rw [RemoveInvite]
      split
      · exact List.Sublist.refl _
      · exact List.eraseP_sublist
    · exact ih h

/-- **What the loop leaves behind**, of which the first part has been dealt with. -/
theorem removeInvites_iff {before rest : List StoredInvite} {own : StoredInvite → Bool}
    (hc : c._invites = before ++ rest) (hown : own = c.IsOwn isSignup guid) (hbefore : ∀ i ∈ before, own i = false) :
    (removeInvites isSignup (rest.filter (·._invitee = guid)) c).map _invites =
        some (before ++ rest.filter fun i ↦ !own i) ↔
      (∀ i ∈ before, ∀ j ∈ rest, own j = true → ¬ SameId i j) ∧
        rest.Pairwise fun i j ↦ own i = false → own j = true → ¬ SameId i j := by
  induction rest generalizing c before with
  | nil => simp [removeInvites, hc]
  | cons i rest ih =>
    have hi : own i = true ↔ i._invitee = guid ∧ (c.GetEvent i._eventId).any isSignup = true := by
      simp [hown, IsOwn]
    rcases hcase : own i with _ | _
    · -- this one stays, and is counted as dealt with
      have hskip : removeInvites isSignup ((i :: rest).filter (·._invitee = guid)) c =
          removeInvites isSignup (rest.filter (·._invitee = guid)) c := by
        by_cases hinvitee : i._invitee = guid
        · have hno : (c.GetEvent i._eventId).any isSignup = false := by
            simpa [hinvitee, hcase] using hi
          simp [hinvitee, removeInvites, hno, hc]
        · simp [hinvitee]
      have hbefore' : ∀ x ∈ before ++ [i], own x = false := by simpa [or_imp, forall_and, hcase] using hbefore
      have := ih (by simpa using hc) hown hbefore'
      rw [hskip]
      simp only [List.append_assoc, List.singleton_append] at this
      simp only [hcase, List.filter_cons, Bool.not_false, if_true, this]
      simp [or_imp, forall_and, List.pairwise_cons, hcase, and_assoc]
    · obtain ⟨hinvitee, hevent⟩ := hi.mp hcase
      have hrun : removeInvites isSignup ((i :: rest).filter (·._invitee = guid)) c =
          removeInvites isSignup (rest.filter (·._invitee = guid)) (c.RemoveInvite i._inviteId i._eventId) := by
        simp [hinvitee, removeInvites, hevent, hc]
      have hinvites := invites_RemoveInvite (hown ▸ hcase)
      have hfilter : (i :: rest).filter (fun i ↦ !own i) = rest.filter fun i ↦ !own i := by simp [hcase]
      rw [hrun]
      by_cases hfirst : ∃ f ∈ before, SameId f i
      · -- somebody else's invite is found first
        obtain ⟨f, hf, hsame⟩ := hfirst
        refine iff_of_false (fun hresult ↦ ?_) fun hway ↦ hway.1 f hf i List.mem_cons_self hcase hsame
        obtain ⟨c', hc', hleft⟩ := Option.map_eq_some_iff.mp hresult
        obtain ⟨g, l₁, l₂, -, hg, hsplit, herase⟩ := List.exists_of_eraseP (p := (SameId · i)) hf (by simpa using hsame)
        have hgown : own g = false := hbefore g (by simp [hsplit])
        have hcount := (invites_removeInvites hc').count_le g
        have hne : i ≠ g := fun h ↦ by simp [← h, hcase] at hgown
        rw [hleft, hinvites, hc, List.eraseP_append_left (by simpa using hsame) _ hf, herase, hfilter,
          List.count_append, List.count_append, List.count_append, List.count_cons_of_ne hne,
          List.count_filter (by simp [hgown]), hsplit, List.count_append, List.count_cons_self] at hcount
        omega
      · have hnone : ∀ f ∈ before, ¬ SameId f i := fun f hf hsame ↦ hfirst ⟨f, hf, hsame⟩
        have hleft : (c.RemoveInvite i._inviteId i._eventId)._invites = before ++ rest := by
          rw [hinvites, hc, List.eraseP_append_right _ (by simpa using hnone), List.eraseP_cons_of_pos (by simp)]
        have := ih hleft (hown.trans (IsOwn_RemoveInvite _ _).symm) hbefore
        rw [hfilter, this]
        simp only [List.forall_mem_cons, List.pairwise_cons, hcase, Bool.true_eq_false, false_imp_iff,
          implies_true, true_and]
        exact and_congr_left' ⟨fun h f hf ↦ ⟨fun _ ↦ hnone f hf, h f hf⟩, fun h f hf ↦ (h f hf).2⟩

/-! ## Both loops -/

/-- **Exactly what is to be removed is removed** where nothing is in the way, and only there. -/
theorem cleanUp_iff (c : Contents) (toRemove isSignup : StoredEvent → Bool) (guid : ObjectGuid) :
    c.cleanUp toRemove isSignup guid = some (c.without toRemove isSignup guid) ↔
      c.NothingInTheWay toRemove isSignup guid := by
  by_cases hevent : ∃ e ∈ c._events, toRemove e = true
  · refine iff_of_false (fun hrun ↦ ?_) fun hway ↦ ?_
    · obtain ⟨c₁, hc₁, hinvites⟩ := Option.bind_eq_some_iff.mp hrun
      obtain ⟨e, he, hkeep, hgone⟩ := exists_removed hevent hc₁
      rw [← events_removeInvites hinvites] at hgone
      exact hgone (List.mem_filter.mpr ⟨he, by simp [hkeep]⟩)
    · obtain ⟨e, he, hremove⟩ := hevent
      exact Bool.false_ne_true ((hway.1 e he).symm.trans hremove)
  · have hnone : ∀ e ∈ c._events, toRemove e = false := by simpa using hevent
    have hwalk : removeEvents toRemove c._events c = some c := by
      simpa [removeEvents] using removeEvents_append (c := c) hnone []
    have hwithout : c.without toRemove isSignup guid =
        ⟨c._events, c._invites.filter fun i ↦ !c.IsOwn isSignup guid i⟩ := by
      have hany (i : StoredInvite) : (c._events.any fun e ↦ toRemove e && e._eventId == i._eventId) = false := by
        simp +contextual [hnone]
      rw [without, List.filter_eq_self.mpr (by simpa using hnone)]
      simp only [hany, Bool.not_false, Bool.and_true]
    have hinvites := @removeInvites_iff c isSignup guid [] _ _ (List.nil_append _).symm rfl (by simp)
    rw [cleanUp, hwalk, Option.bind_eq_bind, Option.bind_some, hwithout, NothingInTheWay]
    simp only [List.not_mem_nil, false_imp_iff, implies_true, true_and, List.nil_append] at hinvites
    refine Iff.trans ?_ (hinvites.trans (and_iff_right hnone).symm)
    rw [Option.map_eq_some_iff]
    constructor
    · exact fun h ↦ ⟨_, h, rfl⟩
    · rintro ⟨c', hc', hleft⟩
      rw [GetPlayerInvites, hc', ← hleft, ← events_removeInvites hc']

/-- **Each of the two functions removes exactly what it is to remove** where nothing is in its way, and only
there. -/
theorem removesExactly_iff (c : Contents) (guid : ObjectGuid) (guildId : ℕ) :
    (c.RemoveAllPlayerEventsAndInvites guid = some (c.without (isCreatedBy guid) (fun _ ↦ true) guid) ↔
      c.NothingInTheWay (isCreatedBy guid) (fun _ ↦ true) guid) ∧
    (c.RemovePlayerGuildEventsAndSignups guid guildId =
        some (c.without (isGuildCreatedBy guid) (isOfGuild guildId) guid) ↔
      c.NothingInTheWay (isGuildCreatedBy guid) (isOfGuild guildId) guid) :=
  ⟨cleanUp_iff .., cleanUp_iff ..⟩

/-- The only event is one of the player. -/
theorem not_removesExactly : ¬ ∀ c : Contents, ∀ guid,
    c.RemoveAllPlayerEventsAndInvites guid = some (c.without (isCreatedBy guid) (fun _ ↦ true) guid) :=
  fun h ↦ absurd (h ⟨[⟨⟨1, 0, 0⟩, 0, 7⟩], []⟩ 7) (by decide)

end Contents

end Gundrak.Calendar
