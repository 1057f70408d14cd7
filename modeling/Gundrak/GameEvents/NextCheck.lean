import Gundrak.GameEvents.GameEventMgr

/-!
# When events are asked again

`LoadFromDB` keeps an event with any period, also none, and `Update` asks `CheckOneGameEvent` and `NextCheck` of every
event.  **`wellTimed_iff`** says of every manager, event and time when this goes well: nothing is divided by zero, and
the time that `NextCheck` gives is at most a day, or nothing is to be seen of the event until it is over.

What can go wrong is a period that is zero in 32 bits, the second of the start (as in `steady_iff`, but now for windows
longer than a day), and an event that waits for others: its answer changes when their phases end, but `NextCheck`
only knows its own windows.
-/

namespace Gundrak

open TimeConstants

/-! ## Loading -/

/-- `HolidaysEntry`. -/
structure HolidaysEntry where
  Duration : List ℕ
  Date : List ℕ
  Looping : ℕ
  CalendarFilterType : ℕ

def MAX_HOLIDAY_DURATIONS : ℕ := 10

def MAX_HOLIDAY_DATES : ℕ := 26

/-- `tm`: the fields of a local time that are read or written. -/
structure LocalTime where
  tm_year : ℤ
  tm_mon : ℕ
  tm_mday : ℕ
  tm_hour : ℕ
  tm_min : ℕ

/-- The clock and the time zone. -/
structure Clock where
  now : ℤ
  localtime : ℤ → LocalTime
  mktime : LocalTime → ℤ

/-- A row of `game_event`, with the times as `UNIX_TIMESTAMP`. -/
structure GameEventRow where
  eventEntry : ℕ
  start_time : ℕ
  end_time : ℕ
  occurence : ℕ
  length : ℕ
  holiday : ℕ
  holidayStage : ℕ
  world_event : ℕ

/-- A number of the database as a `GameEventState`. -/
def GameEventState.ofNat : ℕ → GameEventState
  | 0 => .NORMAL
  | 1 => .WORLD_INACTIVE
  | 2 => .WORLD_CONDITIONS
  | 3 => .WORLD_NEXTPHASE
  | 4 => .WORLD_FINISHED
  | 5 => .INTERNAL
  | n => .other n

namespace GameEventMgr

/-- The minutes of a duration, which is in hours. -/
def durationMinutes (hours : ℕ) : ℕ := hours * HOUR % 2 ^ 32 / MINUTE

/-- The start of a holiday as its date says, in a year. -/
def holidayTime (date : ℕ) (year : ℤ) : LocalTime where
  tm_year := year
  tm_mon := date >>> 20 &&& 0xF
  tm_mday := (date >>> 14 &&& 0x3F) + 1
  tm_hour := date >>> 6 &&& 0x1F
  tm_min := date &&& 0x3F

section load

variable (clock : Clock)

/-- The loop of `GameEventMgr::SetHolidayEventTime` over the dates: the start of the event, if there is one that
suits. -/
def holidayStart (singleDate : Bool) (length : ℕ) (stageOffset : ℤ) : List ℕ → Option ℤ
  | [] => none
  | date :: dates =>
    if date = 0 then none
    else
      let year := if singleDate then (clock.localtime clock.now).tm_year - 1 else ((date >>> 24 &&& 0x1F : ℕ) : ℤ) + 100
      let startTime := clock.mktime (holidayTime date year)
      if clock.now < startTime + minutes length then
        some (startTime + stageOffset)
      else if singleDate then
        some (clock.mktime (holidayTime date (clock.localtime clock.now).tm_year) + stageOffset)
      else holidayStart singleDate length stageOffset dates

/-- `GameEventMgr::SetHolidayEventTime`, for an event with a holiday that exists. -/
def SetHolidayEventTime (holiday : HolidaysEntry) (event : GameEventData) : GameEventData :=
  if event.holidayStage = 0 then event
  else if holiday.Date.getD 0 0 = 0 ∨ holiday.Duration.getD 0 0 = 0 then event
  else
    let stageIndex := event.holidayStage - 1
    let length := durationMinutes (holiday.Duration.getD stageIndex 0)
    let stageOffset := (holiday.Duration.take stageIndex).map fun hours ↦ hours * HOUR % 2 ^ 32
    let occurence :=
      if holiday.Looping ≠ 0 then
        (((holiday.Duration.take MAX_HOLIDAY_DURATIONS).takeWhile (· ≠ 0)).map durationMinutes).sum % 2 ^ 32
      else if holiday.CalendarFilterType = 2 ^ 32 - 1 then YEAR / MINUTE
      else if holiday.CalendarFilterType = 0 then WEEK / MINUTE
      else event.occurence
    let singleDate := holiday.Date.getD 0 0 >>> 24 &&& 0x1F = 31
    let start := holidayStart clock singleDate length (stageOffset.sum : ℕ) (holiday.Date.take MAX_HOLIDAY_DATES)
    { event with length, occurence, start := start.getD event.start }

variable (sHolidaysStore : ℕ → Option HolidaysEntry)

/-- The loop of `GameEventMgr::LoadFromDB` over `game_event`, for one row. -/
def loadRow (mGameEvent : ℕ → GameEventData) (row : GameEventRow) : ℕ → GameEventData :=
  if row.eventEntry = 0 then mGameEvent
  else
    let event : GameEventData :=
      { mGameEvent row.eventEntry with
        start := row.start_time
        end_ := row.end_time
        occurence := row.occurence % 2 ^ 32
        length := row.length % 2 ^ 32
        holiday_id := row.holiday
        holidayStage := row.holidayStage
        state := .ofNat row.world_event
        nextstart := 0 }
    Function.update mGameEvent row.eventEntry <|
      if event.length = 0 ∧ event.state = .NORMAL then event
      else if event.holiday_id ≠ 0 then
        match sHolidaysStore event.holiday_id with
        | none => { event with holiday_id := 0 }
        | some holiday =>
          if MAX_HOLIDAY_DURATIONS < event.holidayStage then { event with holidayStage := 0 }
          else SetHolidayEventTime clock holiday event
      else event

/-- `LoadFromDB` does not reject the row. -/
def Keeps (row : GameEventRow) : Prop :=
  row.eventEntry ≠ 0 ∧ ¬(row.length % 2 ^ 32 = 0 ∧ GameEventState.ofNat row.world_event = .NORMAL)

variable {clock sHolidaysStore}

theorem loadRow_of_no_holiday {mGameEvent : ℕ → GameEventData} {row : GameEventRow} (he : row.eventEntry ≠ 0)
    (hh : row.holiday = 0) : loadRow clock sHolidaysStore mGameEvent row row.eventEntry =
      { mGameEvent row.eventEntry with
        start := row.start_time
        end_ := row.end_time
        occurence := row.occurence % 2 ^ 32
        length := row.length % 2 ^ 32
        holiday_id := 0
        holidayStage := row.holidayStage
        state := .ofNat row.world_event
        nextstart := 0 } := by
  simp [loadRow, he, hh]

end load

/-! ## Updating -/

/-- `GameEventMgr::CheckOneGameEventConditions`: the event afterwards, and whether its conditions are met. -/
def CheckOneGameEventConditions (event : GameEventData) (currenttime : ℤ) : GameEventData × Bool :=
  if event.conditions.any fun condition ↦ condition.done < condition.reqNum then (event, false)
  else
    ({ event with
      state := .WORLD_NEXTPHASE
      nextstart := if event.nextstart = 0 then currenttime + minutes event.length else event.nextstart }, true)

/-- The loop of `GameEventMgr::Update`, for one event: the event afterwards, and what `NextCheck` has given if it was
called. -/
def updateEvent (mGameEvent : ℕ → GameEventData) (currenttime : ℤ) (entry : ℕ) :
    Option (GameEventData × Option ℕ) :=
  (CheckOneGameEvent mGameEvent currenttime entry).bind fun active ↦
    let event := mGameEvent entry
    if active ∧ event.state = .WORLD_NEXTPHASE ∧ event.nextstart ≤ currenttime then
      some ({ event with state := .WORLD_FINISHED, nextstart := 0 }, none)
    else
      let event :=
        if active ∧ event.state = .WORLD_CONDITIONS then (CheckOneGameEventConditions event currenttime).1 else event
      (NextCheck event currenttime).map fun calcDelay ↦ (event, some calcDelay)

/-! ## The property -/

section property

variable (mGameEvent : ℕ → GameEventData) (t : ℤ) (entry : ℕ)

/-- What is seen of an event: whether it should be active, and whether its phase is over. -/
def seen : Option Bool × Bool := (CheckOneGameEvent mGameEvent t entry,
    ((mGameEvent entry).state = .WORLD_NEXTPHASE || (mGameEvent entry).state = .WORLD_FINISHED) &&
      (mGameEvent entry).nextstart ≤ t)

/-- The event can be left alone for a time: it is at most a day, or the same is seen of the event until it is
over. -/
def CanWait (delay : ℕ) : Prop :=
  delay ≤ max_ge_check_delay ∨ ∀ s, t ≤ s → s < t + delay → seen mGameEvent s entry = seen mGameEvent t entry

/-- `Update` does not divide by zero with an event, and can leave it alone as long as `NextCheck` says. -/
def WellTimed : Prop := ∃ event calcDelay, updateEvent mGameEvent t entry = some (event, calcDelay) ∧
    ∀ delay ∈ calcDelay, CanWait (Function.update mGameEvent entry event) t entry delay

/-- `Update` comes to compute with the period, if the time is between the start and the end. -/
def NeedsPeriod (event : GameEventData) (t : ℤ) : Prop :=
  match event.state with
  | .NORMAL | .other _ | .WORLD_INACTIVE | .INTERNAL => True
  | .WORLD_FINISHED => event.nextstart < t
  | .WORLD_NEXTPHASE => False
  | .WORLD_CONDITIONS =>
    (∀ condition ∈ event.conditions, condition.reqNum ≤ condition.done) ∧ event.nextstart ≠ 0 ∧ event.nextstart < t

/-- The event only waits for phases of other events to end. -/
def Awaits : Prop := (∀ p ∈ (mGameEvent entry).prerequisite_events,
    (mGameEvent p).state = .WORLD_NEXTPHASE ∨ (mGameEvent p).state = .WORLD_FINISHED) ∧
  ∃ p ∈ (mGameEvent entry).prerequisite_events, t < (mGameEvent p).nextstart

/-- How long it is to the start of an event, in 32 bits, or to the next edge. -/
def untilChange (event : GameEventData) (t : ℤ) : ℤ :=
  if t < event.start then uint32 (event.start - t) else untilEdge event t

/-- When all goes well with an event.  There is a period where one is needed; it is not the second of a start with a
day before it; and an event that only waits for others does so for longer than for its own windows, if these are
not for a day. -/
structure Timely : Prop where
  period : NeedsPeriod (mGameEvent entry) t → (mGameEvent entry).start ≤ t → t ≤ (mGameEvent entry).end_ →
    minutes (mGameEvent entry).occurence ≠ 0
  begun : (mGameEvent entry).state.Windowed → t = (mGameEvent entry).start →
    minutes (mGameEvent entry).length ≤ max_ge_check_delay ∨
      (mGameEvent entry).end_ - (mGameEvent entry).start ≤ max_ge_check_delay
  waits : (mGameEvent entry).state = .WORLD_INACTIVE → t ≤ (mGameEvent entry).end_ → Awaits mGameEvent t entry →
    untilChange (mGameEvent entry) t ≤ max_ge_check_delay ∨
      ∃ p ∈ (mGameEvent entry).prerequisite_events, t + untilChange (mGameEvent entry) t ≤ (mGameEvent p).nextstart

/-! ## `NextCheck` in each state -/

variable {mGameEvent t entry} {event : GameEventData}

theorem NextCheck_isSome_of_not (hu : ¬UsesWindows event t) : (NextCheck event t).isSome := by
  rw [NextCheck]
  split
  · rfl
  · rename_i hp
    split
    · rfl
    · rename_i hc
      exact absurd ⟨hp, hc⟩ hu

/-- `NextCheck` gives the time to the start or to the next edge. -/
theorem NextCheck_untilChange (hu : UsesWindows event t) (he : t ≤ event.end_)
    (ho : event.start ≤ t → minutes event.occurence ≠ 0) : NextCheck event t = some (untilChange event t).toNat := by
  rcases lt_or_ge t event.start with hs | hs
  · simp [NextCheck_neverStarted hu he hs, untilChange, hs]
  · rw [NextCheck_running hu hs he (ho hs), untilChange, if_neg hs.not_gt]

theorem untilChange_nonneg (he : t ≤ event.end_) (ho : event.start ≤ t → minutes event.occurence ≠ 0) :
    0 ≤ untilChange event t := by
  rw [untilChange]
  split
  · exact Int.natCast_nonneg _
  · rename_i hs
    exact untilEdge_nonneg (ho (not_lt.1 hs)) he

/-- `NextCheck` divides by zero between the start and the end of an event without a period. -/
theorem NextCheck_isSome_iff : (NextCheck event t).isSome ↔
    (UsesWindows event t → event.start ≤ t → t ≤ event.end_ → minutes event.occurence ≠ 0) := by
  by_cases hu : UsesWindows event t
  swap
  · exact iff_of_true (NextCheck_isSome_of_not hu) fun h ↦ absurd h hu
  rcases lt_or_ge event.end_ t with he | he
  · refine iff_of_true ?_ fun _ _ h ↦ absurd h he.not_ge
    simp [NextCheck_outdated hu he]
  rcases lt_or_ge t event.start with hs | hs
  · refine iff_of_true ?_ fun _ h ↦ absurd h hs.not_ge
    simp [NextCheck_neverStarted hu he hs]
  rw [NextCheck, if_neg hu.1, if_neg hu.2, if_neg he.not_gt, if_neg hs.not_gt, Option.isSome_map, remainder_isSome]
  exact ⟨fun h _ _ _ ↦ h, fun h ↦ h hu hs he⟩

/-- `NextCheck` gives a time for which the event can wait. -/
def AskedInTime (mGameEvent : ℕ → GameEventData) (t : ℤ) (entry : ℕ) : Prop :=
  ∃ delay, NextCheck (mGameEvent entry) t = some delay ∧ CanWait mGameEvent t entry delay

theorem AskedInTime.isSome (h : AskedInTime mGameEvent t entry) : (NextCheck (mGameEvent entry) t).isSome := by
  obtain ⟨delay, hdelay, -⟩ := h
  simp [hdelay]

/-- Of an event that is neither in windows nor inactive nothing is seen, unless its phase ends. -/
theorem askedInTime_of_phase (hw : ¬(mGameEvent entry).state.Windowed)
    (hi : (mGameEvent entry).state ≠ .WORLD_INACTIVE) : AskedInTime mGameEvent t entry ↔
      (UsesWindows (mGameEvent entry) t → (mGameEvent entry).start ≤ t → t ≤ (mGameEvent entry).end_ →
        minutes (mGameEvent entry).occurence ≠ 0) := by
  rw [← NextCheck_isSome_iff]
  refine ⟨AskedInTime.isSome, fun h ↦ ?_⟩
  obtain ⟨delay, hdelay⟩ := Option.isSome_iff_exists.1 h
  refine ⟨delay, hdelay, .inr fun s hs hd ↦ ?_⟩
  have hcheck : CheckOneGameEvent mGameEvent s entry = CheckOneGameEvent mGameEvent t entry := by
    unfold CheckOneGameEvent
    cases hstate : (mGameEvent entry).state <;> simp_all [GameEventState.Windowed]
  have hphase : (mGameEvent entry).state = .WORLD_NEXTPHASE ∨ (mGameEvent entry).state = .WORLD_FINISHED →
      ((mGameEvent entry).nextstart ≤ s ↔ (mGameEvent entry).nextstart ≤ t) := by
    intro hp
    by_cases hn : t ≤ (mGameEvent entry).nextstart
    · rw [NextCheck, if_pos ⟨hp, hn⟩, Option.some.injEq] at hdelay
      have := uint32_le (x := (mGameEvent entry).nextstart - t) (by omega)
      omega
    · omega
  unfold seen
  rw [hcheck]
  by_cases hp : (mGameEvent entry).state = .WORLD_NEXTPHASE ∨ (mGameEvent entry).state = .WORLD_FINISHED
  · simp only [hphase hp]
  · simp_all

/-- An event that is not in a phase is seen as `CheckOneGameEvent` says. -/
theorem seen_eq_iff (hn : (mGameEvent entry).state ≠ .WORLD_NEXTPHASE)
    (hf : (mGameEvent entry).state ≠ .WORLD_FINISHED) {s : ℤ} : seen mGameEvent s entry = seen mGameEvent t entry ↔
      CheckOneGameEvent mGameEvent s entry = CheckOneGameEvent mGameEvent t entry := by
  simp [seen, hn, hf]

theorem UsesWindows.of_windowed (hw : event.state.Windowed) : UsesWindows event t := by
  unfold UsesWindows
  cases hstate : event.state <;> simp_all [GameEventState.Windowed]

/-- At the start of an event with a first window, the next edge is the end of the window or of the event. -/
theorem untilEdge_start (event : GameEventData) (hl : 0 < minutes event.length) :
    untilEdge event event.start = min (event.end_ - event.start) (minutes event.length) := by
  rw [untilEdge, sub_self, Int.zero_emod, if_pos (by omega), sub_zero]

theorem askedInTime_of_windowed (hw : (mGameEvent entry).state.Windowed) : AskedInTime mGameEvent t entry ↔
    ((mGameEvent entry).start ≤ t → t ≤ (mGameEvent entry).end_ → minutes (mGameEvent entry).occurence ≠ 0) ∧
      (t = (mGameEvent entry).start → minutes (mGameEvent entry).length ≤ max_ge_check_delay ∨
        (mGameEvent entry).end_ - (mGameEvent entry).start ≤ max_ge_check_delay) := by
  have hu : UsesWindows (mGameEvent entry) t := .of_windowed hw
  have hseen {s : ℤ} : seen mGameEvent s entry = seen mGameEvent t entry ↔
      CheckOneGameEvent mGameEvent s entry = CheckOneGameEvent mGameEvent t entry := by
    refine seen_eq_iff ?_ ?_ <;> intro hstate <;> rw [hstate] at hw <;> exact hw
  constructor
  · intro h
    have ho := NextCheck_isSome_iff.1 h.isSome hu
    refine ⟨ho, fun hst ↦ ?_⟩
    obtain ⟨delay, hdelay, hwait⟩ := h
    by_contra! hlong
    obtain ⟨hl, he⟩ := hlong
    have hedge := untilEdge_start (mGameEvent entry) (by omega)
    rw [hst, NextCheck_running (hst ▸ hu) le_rfl (by omega) (ho hst.ge (by omega)), Option.some.injEq, hedge] at hdelay
    -- the window and the event are longer than a day, and a second later the event is active
    have hsecond : 1 ≤ max_ge_check_delay := by decide
    rcases hwait with hday | hsame
    · omega
    · have := hseen.1 (hsame (t + 1) (by omega) (by omega))
      rw [same_answer_iff hw (ho hst.ge (by omega)) hst.ge (by omega) (by rw [hst, hedge]; omega)] at this
      omega
  · rintro ⟨ho, hbegun⟩
    rcases lt_or_ge (mGameEvent entry).end_ t with he | he
    · exact ⟨_, NextCheck_outdated hu he, .inl le_rfl⟩
    rcases lt_or_ge t (mGameEvent entry).start with hs | hs
    · refine ⟨_, NextCheck_neverStarted hu he hs, .inr fun s _ hd ↦ hseen.2 ?_⟩
      have := uint32_le (x := (mGameEvent entry).start - t) (by omega)
      rw [CheckOneGameEvent_outside hw (.inl (by omega)), CheckOneGameEvent_outside hw (.inl hs.le)]
    refine ⟨_, NextCheck_running hu hs he (ho hs he), ?_⟩
    have hd := untilEdge_nonneg (ho hs he) he
    by_cases hday : untilEdge (mGameEvent entry) t ≤ max_ge_check_delay
    · exact .inl (by omega)
    · refine .inr fun s h hlt ↦ hseen.2 ((same_answer_iff hw (ho hs he) hs h (by omega)).2 ?_)
      by_contra! hst
      obtain rfl : t = (mGameEvent entry).start := by omega
      rw [untilEdge_start _ (by omega)] at hday
      have := hbegun rfl
      omega

/-- An inactive event is active once all that it waits for have ended their phases. -/
theorem CheckOneGameEvent_inactive (hi : (mGameEvent entry).state = .WORLD_INACTIVE) :
    CheckOneGameEvent mGameEvent t entry = some true ↔ (mGameEvent entry).prerequisite_events ≠ [] ∧
      ∀ p ∈ (mGameEvent entry).prerequisite_events,
        ((mGameEvent p).state = .WORLD_NEXTPHASE ∨ (mGameEvent p).state = .WORLD_FINISHED) ∧
          (mGameEvent p).nextstart ≤ t := by
  have hhold (p : ℕ) : holdsBack mGameEvent t p = false ↔
      ((mGameEvent p).state = .WORLD_NEXTPHASE ∨ (mGameEvent p).state = .WORLD_FINISHED) ∧
        (mGameEvent p).nextstart ≤ t := by
    simp only [holdsBack, Bool.or_eq_false_iff, Bool.and_eq_false_iff, decide_eq_false_iff_not, not_lt, not_not, ne_eq]
  simpa [CheckOneGameEvent, hi, hhold] using and_comm

theorem askedInTime_of_inactive (hi : (mGameEvent entry).state = .WORLD_INACTIVE) : AskedInTime mGameEvent t entry ↔
    ((mGameEvent entry).start ≤ t → t ≤ (mGameEvent entry).end_ → minutes (mGameEvent entry).occurence ≠ 0) ∧
      (t ≤ (mGameEvent entry).end_ → Awaits mGameEvent t entry → untilChange (mGameEvent entry) t ≤ max_ge_check_delay ∨
          ∃ p ∈ (mGameEvent entry).prerequisite_events,
            t + untilChange (mGameEvent entry) t ≤ (mGameEvent p).nextstart) := by
  have hu : UsesWindows (mGameEvent entry) t := by simp [UsesWindows, hi]
  have hseen {s : ℤ} : seen mGameEvent s entry = seen mGameEvent t entry ↔
      (CheckOneGameEvent mGameEvent s entry = some true ↔ CheckOneGameEvent mGameEvent t entry = some true) := by
    rw [seen_eq_iff (by simp [hi]) (by simp [hi])]
    simp only [CheckOneGameEvent, hi, Option.some.injEq]
    exact Bool.eq_iff_iff
  constructor
  · intro h
    have ho := NextCheck_isSome_iff.1 h.isSome hu
    refine ⟨ho, fun he hawaits ↦ ?_⟩
    obtain ⟨delay, hdelay, hwait⟩ := h
    rw [NextCheck_untilChange hu he fun hs ↦ ho hs he, Option.some.injEq] at hdelay
    have hd := untilChange_nonneg he fun hs ↦ ho hs he
    rcases hwait with hday | hsame
    · exact .inl (by omega)
    refine or_iff_not_imp_left.2 fun hday ↦ ?_
    by_contra! hearly
    obtain ⟨hphases, p, hp, hlater⟩ := hawaits
    -- before the time is over all phases have ended, though one has not ended now
    have hnow := hsame (t + untilChange (mGameEvent entry) t - 1) (by omega) (by omega)
    rw [hseen, CheckOneGameEvent_inactive hi, CheckOneGameEvent_inactive hi] at hnow
    have hall := hnow.1 ⟨List.ne_nil_of_mem hp, fun q hq ↦ ⟨hphases q hq, by have := hearly q hq; omega⟩⟩
    exact hlater.not_ge (hall.2 p hp).2
  · rintro ⟨ho, hwaits⟩
    rcases lt_or_ge (mGameEvent entry).end_ t with he | he
    · exact ⟨_, NextCheck_outdated hu he, .inl le_rfl⟩
    refine ⟨_, NextCheck_untilChange hu he fun hs ↦ ho hs he, ?_⟩
    have hd := untilChange_nonneg he fun hs ↦ ho hs he
    by_cases hday : untilChange (mGameEvent entry) t ≤ max_ge_check_delay
    · exact .inl (by omega)
    refine .inr fun s hs hlt ↦ hseen.2 ?_
    rw [CheckOneGameEvent_inactive hi, CheckOneGameEvent_inactive hi]
    refine and_congr_right fun _ ↦ ⟨fun hall p hp ↦ ⟨(hall p hp).1, ?_⟩, fun hall p hp ↦
      ⟨(hall p hp).1, (hall p hp).2.trans hs⟩⟩
    by_contra! hlater
    obtain ⟨q, hq, hlong⟩ := (hwaits he ⟨fun q hq ↦ (hall q hq).1, p, hp, hlater⟩).resolve_left hday
    have := (hall q hq).2
    omega

/-! ## `Update` -/

/-- What `NextCheck` is asked about: an event in its phase with conditions may have gone on to the next phase. -/
def asked (event : GameEventData) (t : ℤ) : GameEventData :=
  if event.state = .WORLD_CONDITIONS then (CheckOneGameEventConditions event t).1 else event

theorem updateEvent_of_phaseOver (h : (mGameEvent entry).state = .WORLD_NEXTPHASE ∧ (mGameEvent entry).nextstart ≤ t) :
    updateEvent mGameEvent t entry =
      some ({ mGameEvent entry with state := .WORLD_FINISHED, nextstart := 0 }, none) := by
  simp [updateEvent, CheckOneGameEvent, h]

theorem updateEvent_of_not (h : ¬((mGameEvent entry).state = .WORLD_NEXTPHASE ∧ (mGameEvent entry).nextstart ≤ t)) :
    updateEvent mGameEvent t entry = (CheckOneGameEvent mGameEvent t entry).bind fun _ ↦
      (NextCheck (asked (mGameEvent entry) t) t).map fun calcDelay ↦ (asked (mGameEvent entry) t, some calcDelay) := by
  unfold updateEvent
  refine Option.bind_congr fun active hactive ↦ ?_
  have hasked : (if active = true ∧ (mGameEvent entry).state = .WORLD_CONDITIONS
      then (CheckOneGameEventConditions (mGameEvent entry) t).1 else mGameEvent entry) =
        asked (mGameEvent entry) t := by
    unfold asked
    by_cases hc : (mGameEvent entry).state = .WORLD_CONDITIONS
    · simp_all [CheckOneGameEvent]
    · simp [hc]
  rw [if_neg fun hover ↦ h hover.2, hasked]

/-- Where `NextCheck` does not divide by zero, `CheckOneGameEvent` has not. -/
theorem CheckOneGameEvent_isSome (h : (NextCheck (asked (mGameEvent entry) t) t).isSome) :
    (CheckOneGameEvent mGameEvent t entry).isSome := by
  by_cases hw : (mGameEvent entry).state.Windowed
  swap
  · unfold CheckOneGameEvent
    cases hstate : (mGameEvent entry).state <;> simp_all [GameEventState.Windowed]
  have hasked : asked (mGameEvent entry) t = mGameEvent entry := by
    refine if_neg fun hc ↦ ?_
    rw [hc] at hw
    exact hw
  rw [hasked, NextCheck_isSome_iff] at h
  rw [CheckOneGameEvent_windows hw]
  split
  · rename_i hin
    rw [Option.isSome_map, remainder_isSome]
    exact h (.of_windowed hw) hin.1.le hin.2.le
  · rfl

theorem wellTimed_iff_askedInTime
    (h : ¬((mGameEvent entry).state = .WORLD_NEXTPHASE ∧ (mGameEvent entry).nextstart ≤ t)) :
    WellTimed mGameEvent t entry ↔
      AskedInTime (Function.update mGameEvent entry (asked (mGameEvent entry) t)) t entry := by
  rw [WellTimed, updateEvent_of_not h, AskedInTime, Function.update_self]
  constructor
  · rintro ⟨event, calcDelay, hupdate, hwait⟩
    obtain ⟨active, -, hmap⟩ := Option.bind_eq_some_iff.1 hupdate
    obtain ⟨delay, hdelay, hpair⟩ := Option.map_eq_some_iff.1 hmap
    obtain ⟨rfl, rfl⟩ := Prod.mk.inj hpair
    exact ⟨delay, hdelay, hwait delay rfl⟩
  · rintro ⟨delay, hdelay, hwait⟩
    have hsome := CheckOneGameEvent_isSome (by rw [hdelay, Option.isSome_some])
    obtain ⟨active, hactive⟩ := Option.isSome_iff_exists.1 hsome
    refine ⟨asked (mGameEvent entry) t, some delay, ?_, fun d hd ↦ ?_⟩
    · simp [hactive, hdelay]
    · obtain rfl := Option.some.inj hd
      exact hwait

theorem timely_iff_period (hw : ¬(mGameEvent entry).state.Windowed) (hi : (mGameEvent entry).state ≠ .WORLD_INACTIVE) :
    Timely mGameEvent t entry ↔ (NeedsPeriod (mGameEvent entry) t → (mGameEvent entry).start ≤ t →
      t ≤ (mGameEvent entry).end_ → minutes (mGameEvent entry).occurence ≠ 0) :=
  ⟨Timely.period, fun h ↦ ⟨h, fun hw' ↦ absurd hw' hw, fun hi' ↦ absurd hi' hi⟩⟩

/-- Once its conditions are met the event is in the next phase, and the phase is over only if it was to end before. -/
theorem askedInTime_of_conditions (hc : (mGameEvent entry).state = .WORLD_CONDITIONS) :
    AskedInTime (Function.update mGameEvent entry (asked (mGameEvent entry) t)) t entry ↔
      Timely mGameEvent t entry := by
  rw [timely_iff_period (by simp [hc, GameEventState.Windowed]) (by simp [hc]), asked, if_pos hc,
    CheckOneGameEventConditions]
  split
  · rename_i hunmet
    rw [Function.update_eq_self, askedInTime_of_phase (by simp [hc, GameEventState.Windowed]) (by simp [hc])]
    refine iff_of_true (fun hu ↦ absurd hc hu.2) fun hneeds ↦ ?_
    rw [NeedsPeriod, hc] at hneeds
    obtain ⟨condition, hmem, hlt⟩ := List.any_eq_true.1 hunmet
    exact absurd (hneeds.1 condition hmem) (by simpa using hlt)
  · rename_i hmet
    rw [askedInTime_of_phase (by simp [GameEventState.Windowed]) (by simp), Function.update_self]
    have hall : ∀ condition ∈ (mGameEvent entry).conditions, condition.reqNum ≤ condition.done := by
      simpa using hmet
    have hneeds : NeedsPeriod (mGameEvent entry) t ↔
        (mGameEvent entry).nextstart ≠ 0 ∧ (mGameEvent entry).nextstart < t := by
      rw [NeedsPeriod, hc]
      exact and_iff_right hall
    have huses : UsesWindows { mGameEvent entry with
        state := .WORLD_NEXTPHASE
        nextstart := if (mGameEvent entry).nextstart = 0 then t + minutes (mGameEvent entry).length
          else (mGameEvent entry).nextstart } t ↔
        (mGameEvent entry).nextstart ≠ 0 ∧ (mGameEvent entry).nextstart < t := by
      simp only [UsesWindows, true_or, true_and, not_le, ne_eq, reduceCtorEq, not_false_eq_true, and_true]
      split <;> omega
    rw [hneeds, huses]

/-- **When all goes well with an event.**  In every state of the manager, at every time and for every event, `Update`
divides by nothing that is zero and can leave the event alone as `NextCheck` says, if and only if the event is
timely. -/
theorem wellTimed_iff (mGameEvent : ℕ → GameEventData) (t : ℤ) (entry : ℕ) :
    WellTimed mGameEvent t entry ↔ Timely mGameEvent t entry := by
  by_cases hover : (mGameEvent entry).state = .WORLD_NEXTPHASE ∧ (mGameEvent entry).nextstart ≤ t
  · -- the event is finished and not asked
    refine iff_of_true ⟨_, _, updateEvent_of_phaseOver hover, fun d hd ↦ by cases hd⟩ ?_
    rw [timely_iff_period (by simp [hover.1, GameEventState.Windowed]) (by simp [hover.1]), NeedsPeriod, hover.1]
    exact fun h ↦ h.elim
  rw [wellTimed_iff_askedInTime hover]
  by_cases hc : (mGameEvent entry).state = .WORLD_CONDITIONS
  · exact askedInTime_of_conditions hc
  rw [asked, if_neg hc, Function.update_eq_self]
  by_cases hw : (mGameEvent entry).state.Windowed
  · rw [askedInTime_of_windowed hw]
    have hneeds : NeedsPeriod (mGameEvent entry) t := by
      unfold NeedsPeriod
      cases hstate : (mGameEvent entry).state <;> simp_all [GameEventState.Windowed]
    refine ⟨fun h ↦ ⟨fun _ ↦ h.1, fun _ ↦ h.2, fun hi ↦ ?_⟩, fun h ↦ ⟨h.period hneeds, h.begun hw⟩⟩
    rw [hi] at hw
    exact hw.elim
  by_cases hi : (mGameEvent entry).state = .WORLD_INACTIVE
  · rw [askedInTime_of_inactive hi]
    have hneeds : NeedsPeriod (mGameEvent entry) t := by
      simp [NeedsPeriod, hi]
    exact ⟨fun h ↦ ⟨fun _ ↦ h.1, fun hw' ↦ absurd hw' hw, fun _ ↦ h.2⟩, fun h ↦ ⟨h.period hneeds, h.waits hi⟩⟩
  rw [askedInTime_of_phase hw hi, timely_iff_period hw hi]
  have hneeds : NeedsPeriod (mGameEvent entry) t ↔ UsesWindows (mGameEvent entry) t := by
    unfold NeedsPeriod UsesWindows
    cases hstate : (mGameEvent entry).state <;> simp_all [GameEventState.Windowed]
    exact hover.le
  rw [hneeds]

/-- An event of an hour with no period. -/
def withoutPeriod : GameEventRow where
  eventEntry := 1
  start_time := 86400
  end_time := 172800
  occurence := 0
  length := 60
  holiday := 0
  holidayStage := 0
  world_event := 0

/-- `LoadFromDB` keeps an event with no period, and `Update` divides by zero. -/
theorem not_wellTimed_of_kept :
    ¬∀ (clock : Clock) (sHolidaysStore : ℕ → Option HolidaysEntry) (mGameEvent : ℕ → GameEventData)
      (row : GameEventRow), Keeps row → ∀ t,
        WellTimed (loadRow clock sHolidaysStore mGameEvent row) t row.eventEntry := by
  intro h
  obtain ⟨event, calcDelay, hupdate, -⟩ :=
    h ⟨0, fun _ ↦ ⟨0, 0, 0, 0, 0⟩, fun _ ↦ 0⟩ (fun _ ↦ none) (fun _ ↦ {}) withoutPeriod ⟨by decide, by decide⟩ 90000
  have hnone : CheckOneGameEvent (loadRow ⟨0, fun _ ↦ ⟨0, 0, 0, 0, 0⟩, fun _ ↦ 0⟩ (fun _ ↦ none) (fun _ ↦ {})
      withoutPeriod) 90000 withoutPeriod.eventEntry = none := by
    rw [CheckOneGameEvent, loadRow_of_no_holiday (by decide) rfl]
    decide +kernel
  simp [updateEvent, hnone] at hupdate

end property

end GameEventMgr

end Gundrak
