import Gundrak.Events.Agenda
import Gundrak.Events.EventMap
import Gundrak.Util.Machine

/-!
# An event map is an agenda

The masks of the operations read back what `ScheduleEvent` has put into the event data: `data_id`,
`hasGroup_data` and `isExcluded_data`.  With this an `EventMap` does what the `Agenda` does that is given the
same operations, as long as no sum of two times is too large for 32 bits.

**`scheduling_of_reaches`** is what this comes to: an event happens when it is due and before those that are
due later, every entry is pending or has met one fate for a reason, and what is repeated is the event that has
happened last.
-/

namespace Gundrak.Events

open EventMap

/-! ## The event data -/

theorem or_and (a b mask : UInt32) : (a ||| b) &&& mask = (a &&& mask) ||| (b &&& mask) := by
  refine UInt32.toBitVec_inj.mp ?_
  ext i
  simp [Bool.and_or_distrib_right]

/-- The event id in the event data. -/
def idField (eventId : Fin 65536) : UInt32 := UInt32.ofNat eventId

/-- The group in the event data. -/
def groupField (group : Fin 9) : UInt32 := if group = 0 then 0 else groupBit (UInt32.ofNat group)

/-- The phase in the event data. -/
def phaseField (phase : Fin 9) : UInt32 := if phase = 0 then 0 else phaseBit (UInt8.ofNat phase)

/-- The event data of an event. -/
def Event.data (event : Event) : UInt32 :=
  eventData (idField event.eventId) (UInt32.ofNat event.group) (UInt8.ofNat event.phase)

theorem data_eq (event : Event) :
    event.data = idField event.eventId ||| groupField event.group ||| phaseField event.phase := by
  have hgroup : ∀ group : Fin 9, (UInt32.ofNat group ≠ 0 ∧ UInt32.ofNat group ≤ 8) ↔ ¬ group = 0 := by
    decide
  have hphase : ∀ phase : Fin 9, (UInt8.ofNat phase ≠ 0 ∧ UInt8.ofNat phase ≤ 8) ↔ ¬ phase = 0 := by
    decide
  rw [Event.data, eventData, groupField, phaseField]
  simp only [hgroup, hphase]
  by_cases hg : event.group = 0
  · split_ifs <;> simp
  · split_ifs <;> simp

theorem idField_and_low (eventId : Fin 65536) : idField eventId &&& 0x0000FFFF = idField eventId := by
  refine UInt32.toNat_inj.mp ?_
  have hlt : eventId.val < UInt32.size := eventId.isLt.trans (by decide)
  rw [UInt32.toNat_and, idField, UInt32.toNat_ofNat_of_lt' hlt]
  exact Nat.and_two_pow_sub_one_of_lt_two_pow (n := 16) eventId.isLt

theorem idField_and (eventId : Fin 65536) {mask : UInt32} (h : 0x0000FFFF &&& mask = 0) :
    idField eventId &&& mask = 0 := by
  rw [← idField_and_low, UInt32.and_assoc, h, UInt32.and_zero]

theorem idField_inj {i j : Fin 65536} : idField i = idField j ↔ i = j := by
  have hlt : ∀ k : Fin 65536, k.val < UInt32.size := fun k ↦ k.isLt.trans (by decide)
  rw [idField, idField, ← UInt32.toNat_inj, UInt32.toNat_ofNat_of_lt' (hlt i),
    UInt32.toNat_ofNat_of_lt' (hlt j), Fin.val_inj]

/-- **The id** is read back. -/
theorem data_id (event : Event) : event.data &&& 0x0000FFFF = idField event.eventId := by
  have hgroup : ∀ group : Fin 9, groupField group &&& 0x0000FFFF = 0 := by decide
  have hphase : ∀ phase : Fin 9, phaseField phase &&& 0x0000FFFF = 0 := by decide
  simp [data_eq, or_and, hgroup, hphase, UInt32.or_zero, idField_and_low]

/-- **The group** is read back. -/
theorem hasGroup_data (event : Event) {group : Fin 9} (hgroup : group ≠ 0) :
    hasGroup (UInt32.ofNat group) event.data = decide (event.group = group) := by
  have hid : ∀ g : Fin 9, g ≠ 0 → 0x0000FFFF &&& groupBit (UInt32.ofNat g) = 0 := by decide
  have hphase : ∀ p g : Fin 9, g ≠ 0 → phaseField p &&& groupBit (UInt32.ofNat g) = 0 := by decide
  have hsame : ∀ g g' : Fin 9, g' ≠ 0 →
      (groupField g &&& groupBit (UInt32.ofNat g') != 0) = decide (g = g') := by decide
  rw [hasGroup, data_eq, or_and, or_and, idField_and _ (hid group hgroup), hphase _ _ hgroup,
    UInt32.or_zero, UInt32.zero_or, hsame _ _ hgroup]

theorem hasGroup_entry {group : Fin 9} (hgroup : group ≠ 0) (entry : Entry) :
    hasGroup (UInt32.ofNat group) entry.event.data = Agenda.inGroup group entry := by
  rw [hasGroup_data _ hgroup, Agenda.inGroup]
  exact decide_eq_decide.mpr (and_iff_right hgroup).symm

theorem group_zero_or : ∀ group : Fin 9, (UInt32.ofNat group = 0 ∨ UInt32.ofNat group > 8) ↔ group = 0 := by decide

/-! ## The phase mask -/

/-- A phase is active. -/
def isActive (mask : UInt8) (phase : Fin 9) : Bool := phase != 0 && mask &&& phaseMask (UInt8.ofNat phase) != 0

/-- The active phases. -/
def phasesOf (mask : UInt8) : Finset (Fin 9) := Finset.univ.filter (isActive mask ·)

theorem mem_phasesOf {mask : UInt8} {phase : Fin 9} : phase ∈ phasesOf mask ↔ isActive mask phase := by
  rw [phasesOf, Finset.mem_filter]
  exact and_iff_right (Finset.mem_univ phase)

theorem phasesOf_nonempty : ∀ mask : UInt8, (phasesOf mask).Nonempty ↔ mask ≠ 0 := by
  have hall : ∀ n < 256, (phasesOf (UInt8.ofNat n)).Nonempty ↔ UInt8.ofNat n ≠ 0 := by
    decide +kernel
  intro mask
  have h := hall mask.toNat mask.toNat_lt
  simpa using h

/-- What is left of the event data when the id and the group are shifted out. -/
theorem data_shiftRight (event : Event) : event.data >>> 24 = phaseField event.phase >>> 24 := by
  have hid : idField event.eventId >>> 24 = 0 := by
    rw [← idField_and_low]
    refine UInt32.toNat_inj.mp ?_
    have hle : (idField event.eventId &&& 0x0000FFFF).toNat ≤ 0xFFFF := Nat.and_le_right
    rw [UInt32.toNat_shiftRight, Nat.shiftRight_eq_div_pow]
    exact Nat.div_eq_of_lt (hle.trans_lt (by decide))
  have hgroup : ∀ group : Fin 9, groupField group >>> 24 = 0 := by decide
  simp [data_eq, UInt32.shiftRight_or, hid, hgroup, UInt32.zero_or]

theorem data_mask (event : Event) (mask : UInt8) (hne : event.phase ≠ 0) :
    (event.data >>> 24) &&& mask.toUInt32 = 0 ↔ event.phase ∉ phasesOf mask := by
  have hbit : ∀ phase : Fin 9, phase ≠ 0 →
      phaseField phase >>> 24 = (phaseMask (UInt8.ofNat phase)).toUInt32 := by decide
  have hzero : (0 : UInt32) = (0 : UInt8).toUInt32 := rfl
  rw [data_shiftRight, hbit _ hne, ← UInt8.toUInt32_and, UInt8.and_comm, hzero, UInt8.toUInt32_inj,
    mem_phasesOf, isActive, Bool.and_eq_true, bne_iff_ne, bne_iff_ne, and_iff_right hne, not_not]

/-- **The phase** is read back. -/
theorem isExcluded_data (event : Event) (mask : UInt8) :
    isExcluded mask event.data ↔ event.Excluded (phasesOf mask) := by
  have hid : idField event.eventId &&& 0xFF000000 = 0 := idField_and _ (by decide)
  have hgroup : ∀ group : Fin 9, groupField group &&& 0xFF000000 = 0 := by decide
  have hphase : ∀ phase : Fin 9, phaseField phase &&& 0xFF000000 ≠ 0 ↔ phase ≠ 0 := by decide
  have hhigh : event.data &&& 0xFF000000 ≠ 0 ↔ event.phase ≠ 0 := by
    simp [data_eq, or_and, hid, hgroup, UInt32.zero_or, hphase]
  rw [isExcluded, Bool.and_eq_true, Bool.and_eq_true, bne_iff_ne, bne_iff_ne, beq_iff_eq, hhigh,
    Event.Excluded, phasesOf_nonempty, and_assoc]
  exact and_congr_right fun _ ↦ and_congr_right fun hne ↦ data_mask event mask hne

/-! ## The phases -/

theorem phasesOf_zero : phasesOf 0 = ∅ := by decide

theorem phasesOf_phaseMask : ∀ phase : Fin 9, phase ≠ 0 →
    phasesOf (phaseMask (UInt8.ofNat phase)) = {phase} := by decide

theorem mem_phasesOf_or {a b : UInt8} {phase : Fin 9} :
    phase ∈ phasesOf (a ||| b) ↔ phase ∈ phasesOf a ∨ phase ∈ phasesOf b := by
  have hand : ∀ mask : UInt8, (a ||| b) &&& mask = (a &&& mask) ||| (b &&& mask) := by
    intro mask
    refine UInt8.toBitVec_inj.mp ?_
    ext i
    simp [Bool.and_or_distrib_right]
  have hzero : ∀ x y : UInt8, x ||| y ≠ 0 ↔ x ≠ 0 ∨ y ≠ 0 := by
    intro x y
    refine (not_congr ?_).trans not_and_or
    simpa using Nat.or_eq_zero_iff
  simpa [mem_phasesOf, isActive, hand, hzero] using and_or_left

theorem mem_phasesOf_and {mask : UInt8} {phase p : Fin 9} (h : phase ≠ 0) :
    p ∈ phasesOf (mask &&& ~~~(phaseMask (UInt8.ofNat phase))) ↔ p ≠ phase ∧ p ∈ phasesOf mask := by
  have hnot : ∀ q r : Fin 9, q ≠ 0 → r ≠ 0 → ~~~(phaseMask (UInt8.ofNat q)) &&& phaseMask (UInt8.ofNat r) =
        if r = q then 0 else phaseMask (UInt8.ofNat r) := by decide
  rw [mem_phasesOf, mem_phasesOf]
  simp only [isActive, Bool.and_eq_true, bne_iff_ne]
  by_cases hp : p = 0
  · simp [hp]
  rw [UInt8.and_assoc, hnot phase p h hp]
  by_cases heq : p = phase <;> simp [heq]

theorem phasesOf_or (mask : UInt8) {phase : Fin 9} (h : phase ≠ 0) :
    phasesOf (mask ||| phaseMask (UInt8.ofNat phase)) = insert phase (phasesOf mask) := by
  ext p
  rw [mem_phasesOf_or, phasesOf_phaseMask phase h, Finset.mem_singleton, Finset.mem_insert, or_comm]

theorem phasesOf_and (mask : UInt8) {phase : Fin 9} (h : phase ≠ 0) :
    phasesOf (mask &&& ~~~(phaseMask (UInt8.ofNat phase))) = (phasesOf mask).erase phase := by
  ext p
  simp [mem_phasesOf_and h]

/-! ## The same operations on both -/

/-- An operation on a timetable. -/
inductive Operation where
  | ScheduleEvent (event : Event) (time : UInt32)
  | RescheduleEvent (event : Event) (time : UInt32)
  | Repeat (time : UInt32)
  | SetPhase (phase : Fin 9)
  | AddPhase (phase : Fin 9)
  | RemovePhase (phase : Fin 9)
  | DelayEvents (delay : UInt32)
  | DelayGroupEvents (delay : UInt32) (group : Fin 9)
  | CancelEvent (eventId : Fin 65536)
  | CancelEventGroup (group : Fin 9)
  | Update (time : UInt32)
  | ExecuteEvent

/-- What an operation does to an event map. -/
def EventMap.perform (m : EventMap) : Operation → EventMap
  | .ScheduleEvent event time =>
    m.ScheduleEvent (idField event.eventId) time (UInt32.ofNat event.group) (UInt8.ofNat event.phase)
  | .RescheduleEvent event time =>
    m.RescheduleEvent (idField event.eventId) time (UInt32.ofNat event.group) (UInt8.ofNat event.phase)
  | .Repeat time => m.Repeat time
  | .SetPhase phase => m.SetPhase (UInt8.ofNat phase)
  | .AddPhase phase => m.AddPhase (UInt8.ofNat phase)
  | .RemovePhase phase => m.RemovePhase (UInt8.ofNat phase)
  | .DelayEvents delay => m.DelayEvents delay
  | .DelayGroupEvents delay group => m.DelayGroupEvents delay (UInt32.ofNat group)
  | .CancelEvent eventId => m.CancelEvent (idField eventId)
  | .CancelEventGroup group => m.CancelEventGroup (UInt32.ofNat group)
  | .Update time => m.Update time
  | .ExecuteEvent => m.ExecuteEvent.2

/-- What an operation does to an agenda. -/
def Agenda.perform (a : Agenda) : Operation → Agenda
  | .ScheduleEvent event time => a.schedule event time.toNat
  | .RescheduleEvent event time => (a.cancel event.eventId).schedule event time.toNat
  | .Repeat time => a.repeatLast time.toNat
  | .SetPhase phase => a.setPhase phase
  | .AddPhase phase => a.addPhase phase
  | .RemovePhase phase => a.removePhase phase
  | .DelayEvents delay => a.delayAll delay.toNat
  | .DelayGroupEvents delay group => a.delayGroup delay.toNat group
  | .CancelEvent eventId => a.cancel eventId
  | .CancelEventGroup group => a.cancelGroup group
  | .Update time => a.advance time.toNat
  | .ExecuteEvent => a.execute.2

/-- The sums of two times that an operation makes are below a limit. -/
def EventMap.SumsBelow (limit : ℤ) (m : EventMap) : Operation → Prop
  | .ScheduleEvent _ time | .RescheduleEvent _ time | .Repeat time | .Update time =>
    m._time + time.toNat < limit
  | .DelayGroupEvents delay group =>
    group ≠ 0 → ∀ x ∈ m._eventMap, hasGroup (UInt32.ofNat group) x.2 → x.1 + delay.toNat < limit
  | _ => True

instance (limit : ℤ) (m : EventMap) : (operation : Operation) → Decidable (m.SumsBelow limit operation)
  | .ScheduleEvent _ _ | .RescheduleEvent _ _ | .Repeat _ | .Update _ => inferInstanceAs (Decidable (_ < _))
  | .DelayGroupEvents _ _ => inferInstanceAs (Decidable (_ → _))
  | .SetPhase _ | .AddPhase _ | .RemovePhase _ | .DelayEvents _ | .CancelEvent _ | .CancelEventGroup _
  | .ExecuteEvent => inferInstanceAs (Decidable True)

/-- The event data of the entries of an agenda. -/
def store (pending : List (ℤ × Entry)) : EventStore := Multimap.mapValues (·.event.data) pending

/-- An event map is what an agenda comes to. -/
structure EventMap.Represents (m : EventMap) (a : Agenda) : Prop where
  _time : m._time = a.clock
  _phase : phasesOf m._phase = a.phases
  _eventMap : m._eventMap = store a.pending
  _lastEvent : m._lastEvent = a.last.data

namespace EventMap.Represents

variable {m : EventMap} {a : Agenda} (h : m.Represents a)
include h

theorem add (event : Event) {time : UInt32} (hclock : 0 ≤ a.clock) (hlt : a.clock + time.toNat < 4294967296) :
    { m with _eventMap := Multimap.insert (addTime m._time time.toNat) event.data m._eventMap }.Represents
      (a.add (a.clock + time.toNat) event) where
  _time := h._time
  _phase := h._phase
  _eventMap := by
    have hadd : addTime m._time time.toNat = a.clock + time.toNat := by
      rw [h._time]
      exact addTime_of_lt (Int.add_nonneg hclock (Int.natCast_nonneg _)) hlt
    rw [hadd, h._eventMap]
    exact (Multimap.mapValues_insert (fun entry : Entry ↦ entry.event.data) _ ⟨a.entries, event⟩ _).symm
  _lastEvent := h._lastEvent

theorem cancel (eventId : Fin 65536) : (m.CancelEvent (idField eventId)).Represents (a.cancel eventId) where
  _time := h._time
  _phase := h._phase
  _eventMap := by
    have hid : ∀ entry : Entry, (entry.event.data &&& 0x0000FFFF != idField eventId) =
        !decide (entry.event.eventId = eventId) := by
      intro entry
      rw [data_id, bne, Bool.not_eq_eq_eq_not, Bool.not_not, Bool.beq_eq_decide_eq]
      exact decide_eq_decide.mpr idField_inj
    rw [CancelEvent, h._eventMap]
    exact Multimap.mapValues_filter (p := fun data ↦ data &&& 0x0000FFFF != idField eventId) hid _
  _lastEvent := h._lastEvent

theorem cancelGroup (group : Fin 9) : (m.CancelEventGroup (UInt32.ofNat group)).Represents (a.cancelGroup group) := by
  rw [CancelEventGroup]
  simp only [group_zero_or]
  by_cases hgroup : group = 0
  · rw [if_pos hgroup, hgroup]
    refine ⟨h._time, h._phase, ?_, h._lastEvent⟩
    rw [h._eventMap, Agenda.cancelGroup, Agenda.cancelAll, Agenda.inGroup_zero]
    exact congrArg _ (List.filter_eq_self.mpr fun _ _ ↦ rfl).symm
  · rw [if_neg hgroup]
    refine ⟨h._time, h._phase, ?_, h._lastEvent⟩
    rw [h._eventMap]
    exact Multimap.mapValues_filter (p := fun data ↦ !hasGroup (UInt32.ofNat group) data)
      (fun entry ↦ congrArg _ (hasGroup_entry hgroup entry)) _

theorem delayGroup {delay : UInt32} {group : Fin 9} (hdue : ∀ x ∈ a.pending, 0 ≤ x.1)
    (hlt : ∀ x ∈ a.pending, Agenda.inGroup group x.2 → x.1 + delay.toNat < 4294967296) :
    (m.DelayGroupEvents delay (UInt32.ofNat group)).Represents (a.delayGroup delay.toNat group) := by
  rw [DelayGroupEvents]
  simp only [group_zero_or]
  by_cases hgroup : group = 0
  · rw [if_pos hgroup, hgroup]
    refine ⟨h._time, h._phase, ?_, h._lastEvent⟩
    rw [h._eventMap, Agenda.delayGroup, Agenda.inGroup_zero]
    have hnone : a.pending.filter (fun _ ↦ false) = [] := List.filter_eq_nil_iff.mpr fun _ _ ↦ Bool.false_ne_true
    have hall : a.pending.filter (fun _ ↦ !false) = a.pending := List.filter_eq_self.mpr fun _ _ ↦ rfl
    rw [hnone, hall]
    rfl
  rw [if_neg hgroup]
  refine ⟨h._time, h._phase, ?_, h._lastEvent⟩
  have hin : (store a.pending).filter (hasGroup (UInt32.ofNat group) ·.2) =
      store (a.pending.filter (Agenda.inGroup group ·.2)) :=
    Multimap.mapValues_filter (hasGroup_entry hgroup) a.pending
  have hout : (store a.pending).filter (!hasGroup (UInt32.ofNat group) ·.2) =
      store (a.pending.filter (!Agenda.inGroup group ·.2)) :=
    Multimap.mapValues_filter (p := fun data ↦ !hasGroup (UInt32.ofNat group) data)
      (fun entry ↦ congrArg _ (hasGroup_entry hgroup entry)) a.pending
  have hdelayed : ∀ q : List (ℤ × Entry), (∀ x ∈ q, x ∈ a.pending ∧ Agenda.inGroup group x.2) →
      (store q).map (fun x ↦ (addTime x.1 delay.toNat, x.2)) = store (q.map fun x ↦ (x.1 + delay.toNat, x.2)) := by
    intro q hq
    rw [store, store, Multimap.mapValues, Multimap.mapValues, List.map_map, List.map_map]
    refine List.map_congr_left fun x hx ↦ ?_
    obtain ⟨hmem, hgroup⟩ := hq x hx
    have hadd : addTime x.1 delay.toNat = x.1 + delay.toNat :=
      addTime_of_lt (Int.add_nonneg (hdue x hmem) (Int.natCast_nonneg _)) (hlt x hmem hgroup)
    exact congrArg (·, x.2.event.data) hadd
  rw [h._eventMap, hin, hout, hdelayed _ fun x hx ↦ List.mem_filter.mp hx, Agenda.delayGroup, store,
    store, store, Multimap.mapValues_insertAll, Multimap.mapValues_insertAll]
  rfl

theorem setPhase (phase : Fin 9) : (m.SetPhase (UInt8.ofNat phase)).Represents (a.setPhase phase) := by
  have hzero : ∀ p : Fin 9, UInt8.ofNat p = 0 ↔ p = 0 := by decide
  have hle : ∀ p : Fin 9, UInt8.ofNat p ≤ 8 := by decide
  rw [SetPhase, Agenda.setPhase, if_pos (hle phase)]
  simp only [hzero]
  by_cases hphase : phase = 0
  · rw [if_pos hphase, if_pos hphase]
    exact ⟨h._time, phasesOf_zero, h._eventMap, h._lastEvent⟩
  · rw [if_neg hphase, if_neg hphase]
    exact ⟨h._time, phasesOf_phaseMask phase hphase, h._eventMap, h._lastEvent⟩

theorem addPhase (phase : Fin 9) : (m.AddPhase (UInt8.ofNat phase)).Represents (a.addPhase phase) := by
  have hphases : ∀ p : Fin 9, (UInt8.ofNat p ≠ 0 ∧ UInt8.ofNat p ≤ 8) ↔ ¬ p = 0 := by decide
  rw [AddPhase, Agenda.addPhase]
  simp only [hphases]
  by_cases hphase : phase = 0
  · simpa [hphase] using h
  · rw [if_pos hphase, if_neg hphase, ← h._phase]
    exact ⟨h._time, phasesOf_or _ hphase, h._eventMap, h._lastEvent⟩

theorem removePhase (phase : Fin 9) : (m.RemovePhase (UInt8.ofNat phase)).Represents (a.removePhase phase) := by
  have hphases : ∀ p : Fin 9, (UInt8.ofNat p ≠ 0 ∧ UInt8.ofNat p ≤ 8) ↔ ¬ p = 0 := by decide
  rw [RemovePhase, Agenda.removePhase, ← h._phase]
  simp only [hphases]
  by_cases hphase : phase = 0
  · rw [if_neg (not_not.mpr hphase)]
    have hnot : phase ∉ phasesOf m._phase := by
      rw [mem_phasesOf, hphase]
      exact Bool.false_ne_true
    exact ⟨h._time, (Finset.erase_eq_of_notMem hnot).symm, h._eventMap, h._lastEvent⟩
  · rw [if_pos hphase]
    exact ⟨h._time, phasesOf_and _ hphase, h._eventMap, h._lastEvent⟩

theorem delayAll (delay : UInt32) : (m.DelayEvents delay).Represents (a.delayAll delay.toNat) where
  _time := by
    rw [DelayEvents, Agenda.delayAll, h._time]
    dsimp only
    split <;> omega
  _phase := h._phase
  _eventMap := h._eventMap
  _lastEvent := h._lastEvent

omit h in
theorem executeLoop_eq {mask : UInt8} (hphases : phasesOf mask = a.phases) (q : List (ℤ × Entry)) :
    executeLoop a.clock mask (store q) =
      match q.dropWhile a.isSkipped with
      | [] => (none, [])
      | x :: rest =>
        if x.1 ≤ a.clock then (some x.2.event.data, store rest)
        else (none, store (x :: rest)) := by
  induction q with
  | nil => rfl
  | cons x q ih =>
    rw [store, Multimap.mapValues, List.map_cons, executeLoop, List.dropWhile_cons]
    have hexcluded : isExcluded mask x.2.event.data ↔ x.2.event.Excluded a.phases :=
      hphases ▸ isExcluded_data x.2.event mask
    by_cases hdue : x.1 ≤ a.clock
    · rw [if_neg (Int.not_lt.mpr hdue)]
      by_cases hskipped : x.2.event.Excluded a.phases
      · have hskip : a.isSkipped x := decide_eq_true ⟨hdue, hskipped⟩
        rw [if_pos (hexcluded.mpr hskipped), if_pos hskip]
        exact ih
      · have hstop : ¬ a.isSkipped x := fun h ↦
          hskipped (of_decide_eq_true (p := x.1 ≤ a.clock ∧ x.2.event.Excluded a.phases) h).2
        rw [if_neg (mt hexcluded.mp hskipped), if_neg hstop]
        exact (if_pos hdue).symm
    · have hstop : ¬ a.isSkipped x := fun h ↦
        hdue (of_decide_eq_true (p := x.1 ≤ a.clock ∧ x.2.event.Excluded a.phases) h).1
      rw [if_pos (Int.not_le.mp hdue), if_neg hstop]
      exact (if_neg hdue).symm

/-- `ExecuteEvent` returns the id of the event that happens, or zero. -/
theorem execute : m.ExecuteEvent.2.Represents a.execute.2 ∧ m.ExecuteEvent.1 = match a.execute.1 with
      | none => 0
      | some x => idField x.2.event.eventId := by
  rw [ExecuteEvent, h._time, h._eventMap, executeLoop_eq h._phase, Agenda.execute, Agenda.next]
  have hskip : a.skip.pending = a.pending.dropWhile a.isSkipped := rfl
  rw [hskip]
  cases hq : a.pending.dropWhile a.isSkipped with
  | nil =>
    exact ⟨⟨rfl, h._phase, congrArg store (hskip.trans hq).symm, h._lastEvent⟩, rfl⟩
  | cons x rest =>
    dsimp only
    by_cases hdue : x.1 ≤ a.clock
    · have hnext : Option.filter (fun y ↦ decide (y.1 ≤ a.skip.clock)) (x :: rest).head? = some x :=
        Option.filter_eq_some_iff.mpr ⟨rfl, decide_eq_true hdue⟩
      rw [if_pos hdue, hnext]
      have htail : rest = a.skip.pending.tail := (congrArg List.tail (hskip.trans hq)).symm
      exact ⟨⟨rfl, h._phase, congrArg store htail, rfl⟩, data_id x.2.event⟩
    · have hnext : Option.filter (fun y ↦ decide (y.1 ≤ a.skip.clock)) (x :: rest).head? = none :=
        Option.filter_eq_none_iff.mpr fun y hy ↦ by
          obtain rfl := Option.some.inj hy
          exact fun hle ↦ hdue (of_decide_eq_true hle)
      rw [if_neg hdue, hnext]
      exact ⟨⟨rfl, h._phase, congrArg store (hskip.trans hq).symm, h._lastEvent⟩, rfl⟩

/-- An operation that makes no sum that is too large does the same to both. -/
theorem perform (hsound : a.Sound) {operation : Operation} (hsums : m.SumsBelow 4294967296 operation) :
    (m.perform operation).Represents (a.perform operation) := by
  have hclock := hsound.clock
  rw [← h._time] at hclock
  cases operation with
  | ScheduleEvent event time => exact h.add event hsound.clock (h._time ▸ hsums)
  | RescheduleEvent event time =>
    exact (h.cancel event.eventId).add event hsound.clock (h._time ▸ hsums)
  | Repeat time =>
    have hsum : m._time + time.toNat < 4294967296 := hsums
    have hadd := h.add a.last hsound.clock (h._time ▸ hsum)
    rw [← h._lastEvent] at hadd
    exact hadd
  | SetPhase phase => exact h.setPhase phase
  | AddPhase phase => exact h.addPhase phase
  | RemovePhase phase => exact h.removePhase phase
  | DelayEvents delay => exact h.delayAll delay
  | DelayGroupEvents delay group =>
    refine h.delayGroup hsound.due fun x hx hgroup ↦ ?_
    have hne : group ≠ 0 := (of_decide_eq_true (p := group ≠ 0 ∧ x.2.event.group = group) hgroup).1
    have hmem : (x.1, x.2.event.data) ∈ m._eventMap := h._eventMap ▸ List.mem_map_of_mem hx
    exact hsums hne _ hmem ((hasGroup_entry hne x.2).trans hgroup)
  | CancelEvent eventId => exact h.cancel eventId
  | CancelEventGroup group => exact h.cancelGroup group
  | Update time =>
    refine ⟨?_, h._phase, h._eventMap, h._lastEvent⟩
    rw [EventMap.perform, Update, Agenda.perform, Agenda.advance, ← h._time]
    exact addTime_of_lt (Int.add_nonneg hclock (Int.natCast_nonneg _)) hsums
  | ExecuteEvent => exact h.execute.1

end EventMap.Represents

theorem Agenda.Sound.perform {a : Agenda} (h : a.Sound) (operation : Operation) : (a.perform operation).Sound := by
  have hnonneg : ∀ time : UInt32, 0 ≤ a.clock + time.toNat := fun time ↦
    Int.add_nonneg h.clock (Int.natCast_nonneg _)
  have hcancel : ∀ eventId, (a.cancel eventId).Sound := fun eventId ↦
    h.cancelAll rfl fun x hid ↦ of_decide_eq_true (p := x.event.eventId = eventId) hid
  cases operation with
  | ScheduleEvent event time => exact h.add (hnonneg time)
  | RescheduleEvent event time => exact (hcancel event.eventId).add (hnonneg time)
  | Repeat time => exact h.add (hnonneg time)
  | SetPhase phase => exact h.frame h.clock _
  | AddPhase phase => exact h.frame h.clock _
  | RemovePhase phase => exact h.frame h.clock _
  | DelayEvents delay => exact h.frame (le_max_left _ _) a.phases
  | DelayGroupEvents delay group => exact h.delayGroup (Int.natCast_nonneg _)
  | CancelEvent eventId => exact hcancel eventId
  | CancelEventGroup group =>
    exact h.cancelAll rfl fun x hin ↦ of_decide_eq_true (p := group ≠ 0 ∧ x.event.group = group) hin
  | Update time => exact h.frame (hnonneg time) a.phases
  | ExecuteEvent => exact h.execute

/-! ## All runs -/

/-- An event map and an agenda that have been given the same operations. -/
structure Timetable where
  map : EventMap
  agenda : Agenda

/-- The operations as a machine. -/
def timetable : Machine Timetable Operation where
  start := ⟨.new, .new⟩
  next t operation := some ⟨t.map.perform operation, t.agenda.perform operation⟩

/-- What an event map is to do. -/
structure Timetable.Scheduling (t : Timetable) : Prop where
  represents : t.map.Represents t.agenda
  sound : t.agenda.Sound
  /-- `ExecuteEvent` returns an event exactly if the agenda does -/
  execute : t.map.ExecuteEvent.1 = match t.agenda.execute.1 with
    | none => 0
    | some x => idField x.2.event.eventId
  /-- what it returns has been pending, is due, is not excluded, and nothing that is left is due before it -/
  due : ∀ x, t.agenda.execute.1 = some x → x ∈ t.agenda.pending ∧ x.1 ≤ t.agenda.clock ∧
    ¬ x.2.event.Excluded t.agenda.phases ∧ ∀ y ∈ t.agenda.execute.2.pending, x.1 ≤ y.1
  /-- it returns nothing only when nothing is due -/
  idle : t.agenda.execute.1 = none → ∀ y ∈ t.agenda.execute.2.pending, t.agenda.clock < y.1
  /-- delaying a group changes the due times of its entries, and nothing else -/
  delay : ∀ delay group, (t.agenda.delayGroup delay group).pending.Perm
    (t.agenda.pending.map (Agenda.delayed delay group))

/-- **Scheduling**, as long as no sum of two times reaches `2 ^ 32`. -/
theorem scheduling_of_reaches {t : Timetable}
    (h : timetable.Reaches (fun t operation ↦ t.map.SumsBelow 4294967296 operation) t) :
    t.Scheduling := by
  have hboth : t.map.Represents t.agenda ∧ t.agenda.Sound := by
    refine h.invariant (P := fun t ↦ t.map.Represents t.agenda ∧ t.agenda.Sound) ?_ ?_
    · exact ⟨⟨rfl, phasesOf_zero, rfl, by decide⟩, Agenda.sound_new⟩
    · rintro t operation _ ⟨hrepresents, hsound⟩ hsums hnext
      obtain rfl := Option.some.inj hnext
      exact ⟨hrepresents.perform hsound hsums, hsound.perform operation⟩
  obtain ⟨hrepresents, hsound⟩ := hboth
  exact
    { represents := hrepresents
      sound := hsound
      execute := hrepresents.execute.2
      due := fun x hx ↦ Agenda.execute_some hsound.sorted hx
      idle := Agenda.execute_none hsound.sorted
      delay := Agenda.delayGroup_perm t.agenda }

/-- Two events, of which the second happens first and is repeated, while the group of the other one is
delayed. -/
def repeatedEvent : List Operation :=
  [.ScheduleEvent ⟨1, 2, 1⟩ 10, .ScheduleEvent ⟨2, 0, 3⟩ 5, .AddPhase 3, .Update 7, .ExecuteEvent, .Repeat 3,
    .DelayGroupEvents 100 2, .Update 3]

theorem scheduling_of_reaches_repeatedEvent :
    ∃ t, timetable.Reaches (fun t operation ↦ t.map.SumsBelow 4294967296 operation) t ∧
      t.map.ExecuteEvent.1 = 2 ∧ t.Scheduling := by
  obtain ⟨t, ht, hreturned⟩ := timetable.exists_reaches (fun t operation ↦ t.map.SumsBelow 4294967296 operation)
    repeatedEvent
    (fun t ↦ t.map.ExecuteEvent.1 = 2) (by decide +kernel)
  exact ⟨t, ht, hreturned, scheduling_of_reaches ht⟩

/-- A sum of exactly `2 ^ 32`, which does not fit. -/
def wrappedSum : List Operation := [.Update 1, .ScheduleEvent ⟨1, 0, 0⟩ 0xFFFFFFFF]

/-- **A sum of `2 ^ 32`** is zero, and the event happens at once. -/
theorem not_scheduling_of_sums_le :
    ¬ ∀ t, timetable.Reaches (fun t operation ↦ t.map.SumsBelow (4294967296 + 1) operation) t →
      t.Scheduling := by
  intro h
  obtain ⟨t, ht, hreturned, hnone⟩ := timetable.exists_reaches (fun t operation ↦ t.map.SumsBelow (4294967296 + 1)
    operation) wrappedSum
    (fun t ↦ t.map.ExecuteEvent.1 = 1 ∧ t.agenda.execute.1 = none) (by decide +kernel)
  have hexecute := (h t ht).execute
  simp [hreturned, hnone] at hexecute

end Gundrak.Events
