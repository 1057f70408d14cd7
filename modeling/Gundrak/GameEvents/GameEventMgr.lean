import Gundrak.Util.Int32
import Gundrak.Util.TimeConstants

/-!
# Game events

A `GameEventData` is active in windows of `length` minutes, one every `occurence` minutes between its `start` and
its `end_`; world events go through phases instead.  `CheckOneGameEvent` says whether an event should be active now,
and `NextCheck` after how many seconds it has to be asked again.  Both compute with the remainder of a division by
the period, in 32 bits, and are `none` where they divide by zero.

**`steady_iff`**: for an event with windows, the answer of `CheckOneGameEvent` stays the same as long as `NextCheck`
says, at all times but one.  The event has not begun at the second `start`, but `NextCheck` already waits for the end
of the first window.
-/

namespace Gundrak

open TimeConstants

/-! ## The source -/

/-- `GameEventState`, with what is read from the database and has no name. -/
inductive GameEventState where
  | NORMAL
  | WORLD_INACTIVE
  | WORLD_CONDITIONS
  | WORLD_NEXTPHASE
  | WORLD_FINISHED
  | INTERNAL
  | other (n : ℕ)
deriving DecidableEq

/-- In these states an event is active in windows. -/
def GameEventState.Windowed : GameEventState → Prop
  | .NORMAL | .other _ => True
  | _ => False

/-- `GameEventFinishCondition`. -/
structure GameEventFinishCondition where
  reqNum : ℚ
  done : ℚ

/-- `GameEventData`.  The times are seconds and the two numbers of 32 bits are minutes. -/
structure GameEventData where
  start : ℤ := 1
  end_ : ℤ := 0
  nextstart : ℤ := 0
  occurence : ℕ := 0
  length : ℕ := 0
  holiday_id : ℕ := 0
  holidayStage : ℕ := 0
  state : GameEventState := .NORMAL
  conditions : List GameEventFinishCondition := []
  prerequisite_events : List ℕ := []

def max_ge_check_delay : ℕ := DAY

namespace GameEventMgr

/-- Minutes as seconds, in 32 bits. -/
def minutes (n : ℕ) : ℕ := n * MINUTE % 2 ^ 32

/-- The remainder of a division, which must not be by zero. -/
def remainder (a : ℤ) (b : ℕ) : Option ℤ :=
  if b = 0 then none else some (a.tmod b)

/-- The event at the entry has not finished its phase for long enough, so that none that follows it can start. -/
def holdsBack (mGameEvent : ℕ → GameEventData) (currenttime : ℤ) (entry : ℕ) : Bool :=
  ((mGameEvent entry).state ≠ .WORLD_NEXTPHASE && (mGameEvent entry).state ≠ .WORLD_FINISHED) ||
    currenttime < (mGameEvent entry).nextstart

/-- `GameEventMgr::CheckOneGameEvent`.  The entries are those of `mGameEvent`. -/
def CheckOneGameEvent (mGameEvent : ℕ → GameEventData) (currenttime : ℤ) (entry : ℕ) : Option Bool :=
  let event := mGameEvent entry
  match event.state with
  | .WORLD_CONDITIONS | .WORLD_NEXTPHASE => some true
  | .WORLD_FINISHED | .INTERNAL => some false
  | .WORLD_INACTIVE =>
    some (!event.prerequisite_events.any (holdsBack mGameEvent currenttime) && !event.prerequisite_events.isEmpty)
  | .NORMAL | .other _ =>
    if event.start < currenttime ∧ currenttime < event.end_ then
      (remainder (currenttime - event.start) (minutes event.occurence)).map fun r : ℤ ↦
        decide (r < minutes event.length)
    else some false

/-- `GameEventMgr::NextCheck`. -/
def NextCheck (event : GameEventData) (currenttime : ℤ) : Option ℕ :=
  if (event.state = .WORLD_NEXTPHASE ∨ event.state = .WORLD_FINISHED) ∧ currenttime ≤ event.nextstart then
    some (uint32 (event.nextstart - currenttime))
  else if event.state = .WORLD_CONDITIONS then
    some (if event.length ≠ 0 then minutes event.length else max_ge_check_delay)
  else if event.end_ < currenttime then
    some max_ge_check_delay
  else if currenttime < event.start then
    some (uint32 (event.start - currenttime))
  else
    (remainder (currenttime - event.start) (minutes event.occurence)).map fun r : ℤ ↦
      let delay :=
        if r < minutes event.length then uint32 (minutes event.length - r) else uint32 (minutes event.occurence - r)
      if event.end_ < currenttime + delay then uint32 (event.end_ - currenttime) else delay

/-! ## The windows of an event -/

section windows

variable (event : GameEventData)

/-- How long it is from a time between the start and the end of an event to the next edge of a window, or to the
end. -/
def untilEdge (t : ℤ) : ℤ :=
  let r := (t - event.start) % minutes event.occurence
  min (event.end_ - t) (if r < minutes event.length then minutes event.length - r else minutes event.occurence - r)

theorem minutes_lt (n : ℕ) : minutes n < 2 ^ 32 := Nat.mod_lt _ (by norm_num)

theorem minutes_of_lt {n : ℕ} (h : n * 60 < 2 ^ 32) : minutes n = n * 60 := Nat.mod_eq_of_lt h

theorem remainder_of_ne {a : ℤ} {b : ℕ} (ha : 0 ≤ a) (hb : b ≠ 0) : remainder a b = some (a % b) := by
  rw [remainder, if_neg hb, Int.tmod_eq_emod_of_nonneg ha]

theorem remainder_isSome {a : ℤ} {b : ℕ} : (remainder a b).isSome ↔ b ≠ 0 := by
  unfold remainder
  split <;> simp_all

variable {event} {t : ℤ}

theorem untilEdge_nonneg (ho : minutes event.occurence ≠ 0) (he : t ≤ event.end_) : 0 ≤ untilEdge event t := by
  have hr := Int.emod_lt_of_pos (t - event.start) (by omega : (0 : ℤ) < minutes event.occurence)
  rw [untilEdge]
  refine le_min (by omega) ?_
  split <;> omega

theorem untilEdge_le_end : untilEdge event t ≤ event.end_ - t := min_le_left _ _

theorem untilEdge_le_edge : untilEdge event t ≤
    if (t - event.start) % minutes event.occurence < minutes event.length
    then minutes event.length - (t - event.start) % minutes event.occurence
    else minutes event.occurence - (t - event.start) % minutes event.occurence := min_le_right _ _

/-- Nothing changes before the next edge: it is not the end, and all times are in a window or none is. -/
theorem same_window (ho : minutes event.occurence ≠ 0) {s : ℤ} (hs : t ≤ s) (hd : s < t + untilEdge event t) :
    s < event.end_ ∧ ((s - event.start) % minutes event.occurence < minutes event.length ↔
      (t - event.start) % minutes event.occurence < minutes event.length) := by
  have hP : (0 : ℤ) < minutes event.occurence := by omega
  have hr := Int.emod_lt_of_pos (t - event.start) hP
  have h0 := Int.emod_nonneg (t - event.start) hP.ne'
  have hs' := Int.emod_lt_of_pos (s - event.start) hP
  have hend := @untilEdge_le_end event t
  have hedge := @untilEdge_le_edge event t
  refine ⟨by omega, ?_⟩
  -- as long as the period is not over, the remainder grows with the time
  have hgrow : s - t < minutes event.occurence - (t - event.start) % minutes event.occurence →
      (s - event.start) % minutes event.occurence = (t - event.start) % minutes event.occurence + (s - t) := by
    intro h
    have hsplit : s - event.start = ((t - event.start) % minutes event.occurence + (s - t)) +
        minutes event.occurence * ((t - event.start) / minutes event.occurence) := by
      have := Int.mul_ediv_add_emod (t - event.start) (minutes event.occurence)
      omega
    rw [hsplit, Int.add_mul_emod_self_left, Int.emod_eq_of_lt (by omega) (by omega)]
  split at hedge
  · rename_i hin
    refine iff_of_true ?_ hin
    by_cases h : s - t < minutes event.occurence - (t - event.start) % minutes event.occurence
    · omega
    · -- the window is at least as long as the period
      omega
  · rename_i hout
    refine iff_of_false ?_ hout
    omega

variable (event t) in
/-- `NextCheck` looks at the windows: the event does not wait for its conditions or for its phase to end. -/
def UsesWindows : Prop := ¬((event.state = .WORLD_NEXTPHASE ∨ event.state = .WORLD_FINISHED) ∧ t ≤ event.nextstart) ∧
    event.state ≠ .WORLD_CONDITIONS

theorem NextCheck_outdated (hu : UsesWindows event t) (he : event.end_ < t) :
    NextCheck event t = some max_ge_check_delay := by
  simp [NextCheck, hu.1, hu.2, he]

theorem NextCheck_neverStarted (hu : UsesWindows event t) (he : t ≤ event.end_) (hs : t < event.start) :
    NextCheck event t = some (uint32 (event.start - t)) := by
  simp [NextCheck, hu.1, hu.2, he.not_gt, hs]

/-- Between the start and the end, `NextCheck` gives the time until the next edge. -/
theorem NextCheck_running (hu : UsesWindows event t) (hs : event.start ≤ t) (he : t ≤ event.end_)
    (ho : minutes event.occurence ≠ 0) : NextCheck event t = some (untilEdge event t).toNat := by
  have hP : (0 : ℤ) < minutes event.occurence := by omega
  have hr := Int.emod_lt_of_pos (t - event.start) hP
  have h0 := Int.emod_nonneg (t - event.start) hP.ne'
  have hL := minutes_lt event.length
  have hO := minutes_lt event.occurence
  rw [NextCheck, if_neg hu.1, if_neg hu.2, if_neg he.not_gt, if_neg hs.not_gt, remainder_of_ne (by omega) ho,
    Option.map_some]
  simp only [Option.some.injEq, untilEdge]
  -- in both cases the sums fit in 32 bits, so that `delay` is the distance and the end counts when it is nearer
  unfold uint32
  split <;> split <;> omega

end windows

/-! ## Transitions -/

section steady

variable (mGameEvent : ℕ → GameEventData) (entry : ℕ) (t : ℤ)

/-- `NextCheck` gives a time, and until it is over `CheckOneGameEvent` has the answer that it has now. -/
def Steady : Prop := ∃ delay, NextCheck (mGameEvent entry) t = some delay ∧ ∀ s, t ≤ s → s < t + delay →
    CheckOneGameEvent mGameEvent s entry = CheckOneGameEvent mGameEvent t entry

variable {mGameEvent entry t}

section

variable (hn : (mGameEvent entry).state.Windowed)
include hn

/-- An event with windows is active after its start and before its end, in each window. -/
theorem CheckOneGameEvent_windows (s : ℤ) : CheckOneGameEvent mGameEvent s entry =
      if (mGameEvent entry).start < s ∧ s < (mGameEvent entry).end_ then
        (remainder (s - (mGameEvent entry).start) (minutes (mGameEvent entry).occurence)).map fun r : ℤ ↦
          decide (r < minutes (mGameEvent entry).length)
      else some false := by
  cases hstate : (mGameEvent entry).state <;> simp only [hstate, GameEventState.Windowed] at hn <;>
    simp only [CheckOneGameEvent, hstate]

theorem CheckOneGameEvent_outside {s : ℤ} (hs : s ≤ (mGameEvent entry).start ∨ (mGameEvent entry).end_ ≤ s) :
    CheckOneGameEvent mGameEvent s entry = some false := by
  rw [CheckOneGameEvent_windows hn, if_neg (by omega)]

theorem CheckOneGameEvent_inside
    (ho : minutes (mGameEvent entry).occurence ≠ 0) {s : ℤ} (hs : (mGameEvent entry).start < s)
    (he : s < (mGameEvent entry).end_) :
    CheckOneGameEvent mGameEvent s entry = some (decide
      ((s - (mGameEvent entry).start) % minutes (mGameEvent entry).occurence < minutes (mGameEvent entry).length)) := by
  rw [CheckOneGameEvent_windows hn, if_pos ⟨hs, he⟩, remainder_of_ne (by omega) ho, Option.map_some]

/-- Until the next edge the answer stays the same, but for an event that is asked in the second of its start. -/
theorem same_answer_iff
    (ho : minutes (mGameEvent entry).occurence ≠ 0) (hs : (mGameEvent entry).start ≤ t) {s : ℤ} (h : t ≤ s)
    (hd : s < t + untilEdge (mGameEvent entry) t) :
    CheckOneGameEvent mGameEvent s entry = CheckOneGameEvent mGameEvent t entry ↔
      (mGameEvent entry).start < t ∨ s = t ∨ minutes (mGameEvent entry).length = 0 := by
  obtain ⟨hend, hwindow⟩ := same_window ho h hd
  rcases hs.lt_or_eq with hs | hs
  · refine iff_of_true ?_ (.inl hs)
    rw [CheckOneGameEvent_inside hn ho (by omega) hend, CheckOneGameEvent_inside hn ho hs (by omega),
      decide_eq_decide.2 hwindow]
  · rw [CheckOneGameEvent_outside hn (.inl hs.ge)]
    rcases h.lt_or_eq with h | h
    · rw [CheckOneGameEvent_inside hn ho (by omega) hend]
      simp only [Option.some.injEq, decide_eq_false_iff_not]
      rw [hwindow, ← hs, sub_self, Int.zero_emod]
      omega
    · exact iff_of_true (by rw [← h, CheckOneGameEvent_outside hn (.inl hs.ge)]) (.inr (.inl h.symm))

end

/-- **No transition is missed, but for one second.**  An event with a period and a length changes between active
and inactive only when `NextCheck` says, unless it is asked in the second of its start. -/
theorem steady_iff (hn : (mGameEvent entry).state = .NORMAL)
    (hse : (mGameEvent entry).start ≤ (mGameEvent entry).end_) (ho : 0 < (mGameEvent entry).occurence)
    (hl : 0 < (mGameEvent entry).length) (ho' : (mGameEvent entry).occurence * 60 < 2 ^ 32)
    (hl' : (mGameEvent entry).length * 60 < 2 ^ 32) (t : ℤ) :
    Steady mGameEvent entry t ↔
      t ≠ (mGameEvent entry).start ∨ (mGameEvent entry).end_ ≤ (mGameEvent entry).start + 1 := by
  have hw : (mGameEvent entry).state.Windowed := by
    rw [hn]
    trivial
  have hu : UsesWindows (mGameEvent entry) t := by simp [UsesWindows, hn]
  have hP : minutes (mGameEvent entry).occurence ≠ 0 := by
    rw [minutes_of_lt ho']
    omega
  have hL := minutes_of_lt hl'
  rcases lt_or_ge (mGameEvent entry).end_ t with he | he
  · -- the event is over
    refine iff_of_true ⟨_, NextCheck_outdated hu he, fun s hs _ ↦ ?_⟩ (.inl (by omega))
    rw [CheckOneGameEvent_outside hw (.inr (by omega)), CheckOneGameEvent_outside hw (.inr he.le)]
  rcases lt_or_ge t (mGameEvent entry).start with hs | hs
  · -- the event has not started
    refine iff_of_true ⟨_, NextCheck_neverStarted hu he hs, fun s _ hd ↦ ?_⟩ (.inl hs.ne)
    have := uint32_le (x := (mGameEvent entry).start - t) (by omega)
    rw [CheckOneGameEvent_outside hw (.inl (by omega)), CheckOneGameEvent_outside hw (.inl hs.le)]
  have hd := untilEdge_nonneg hP he
  have hiff : Steady mGameEvent entry t ↔ ∀ s, t ≤ s → s < t + untilEdge (mGameEvent entry) t →
      (mGameEvent entry).start < t ∨ s = t ∨ minutes (mGameEvent entry).length = 0 := by
    rw [Steady, NextCheck_running hu hs he hP]
    simp only [Option.some.injEq, exists_eq_left', Int.toNat_of_nonneg hd]
    exact forall_congr' fun s ↦ forall_congr' fun h ↦ forall_congr' fun h' ↦ same_answer_iff hw hP hs h h'
  rw [hiff]
  constructor
  · intro h
    by_contra! hmiss
    obtain ⟨rfl, hlong⟩ := hmiss
    -- the second after the start is in the first window
    have hedge : 1 < untilEdge (mGameEvent entry) (mGameEvent entry).start := by
      rw [untilEdge, sub_self, Int.zero_emod, if_pos (by omega)]
      omega
    rcases h ((mGameEvent entry).start + 1) (by omega) (by omega) with h | h | h <;> omega
  · rintro (hne | hshort) s h hd
    · exact .inl (by omega)
    · by_cases hst : (mGameEvent entry).start < t
      · exact .inl hst
      · refine .inr (.inl ?_)
        have : untilEdge (mGameEvent entry) t ≤ (mGameEvent entry).end_ - t := min_le_left _ _
        omega

/-- The first hour of each of ten days. -/
def firstHours : GameEventData := { start := 86400, end_ := 950400, occurence := 1440, length := 60 }

theorem steady_firstHours : Steady (fun _ ↦ firstHours) 1 86401 :=
  (steady_iff rfl (by decide) (by decide) (by decide) (by decide) (by decide) 86401).2 (.inl (by decide))

/-- In the second of its start the event is not active, and it is to be asked again after an hour; a second later it
is active. -/
theorem not_steady_start :
    ¬∀ (mGameEvent : ℕ → GameEventData) (entry : ℕ), (mGameEvent entry).state = .NORMAL →
      (mGameEvent entry).start ≤ (mGameEvent entry).end_ → 0 < (mGameEvent entry).occurence →
      0 < (mGameEvent entry).length → (mGameEvent entry).occurence * 60 < 2 ^ 32 →
      (mGameEvent entry).length * 60 < 2 ^ 32 → ∀ t, Steady mGameEvent entry t := by
  intro h
  obtain ⟨delay, hdelay, hsame⟩ :=
    h (fun _ ↦ firstHours) 1 rfl (by decide) (by decide) (by decide) (by decide) (by decide) 86400
  have hour : NextCheck firstHours 86400 = some 3600 := by decide +kernel
  rw [hour, Option.some.injEq] at hdelay
  have hchange : CheckOneGameEvent (fun _ ↦ firstHours) 86401 1 ≠ CheckOneGameEvent (fun _ ↦ firstHours) 86400 1 := by
    decide +kernel
  exact hchange (hsame 86401 (by omega) (by omega))

end steady

end GameEventMgr

end Gundrak
