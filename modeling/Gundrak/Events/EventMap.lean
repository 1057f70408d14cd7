import Gundrak.Util.Multimap

/-!
# Event maps

An `EventMap` is the timetable of a script: events are scheduled, and the script asks for the next one that is
due.  An event has an id, and perhaps a group, by which it can be delayed and cancelled, and a phase, outside
of which it does not happen.  All three are packed into one word, the event data.
-/

namespace Gundrak.Events

/-- The sum of two times, which are 32 bits wide. -/
def addTime (time delay : ℤ) : ℤ := (time + delay) % 4294967296

theorem addTime_of_lt {time delay : ℤ} (hle : 0 ≤ time + delay) (hlt : time + delay < 4294967296) :
    addTime time delay = time + delay := Int.emod_eq_of_lt hle hlt

/-- `EventMap::EventStore`: the event data by the time at which the event is due. -/
abbrev EventStore := List (ℤ × UInt32)

/-- `EventMap`. -/
structure EventMap where
  _time : ℤ
  _phase : UInt8
  _eventMap : EventStore
  _lastEvent : UInt32

namespace EventMap

variable (m : EventMap)

/-- A map without events. -/
def new : EventMap := ⟨0, 0, [], 0⟩

/-- `EventMap::Update`. -/
def Update (time : UInt32) : EventMap := { m with _time := addTime m._time time.toNat }

/-- The bit of a phase in the phase mask. -/
def phaseMask (phase : UInt8) : UInt8 := 1 <<< (phase - 1)

/-- `EventMap::SetPhase`. -/
def SetPhase (phase : UInt8) : EventMap :=
  if phase = 0 then { m with _phase := 0 }
  else if phase ≤ 8 then { m with _phase := phaseMask phase }
  else m

/-- `EventMap::AddPhase`. -/
def AddPhase (phase : UInt8) : EventMap :=
  if phase ≠ 0 ∧ phase ≤ 8 then { m with _phase := m._phase ||| phaseMask phase } else m

/-- `EventMap::RemovePhase`. -/
def RemovePhase (phase : UInt8) : EventMap :=
  if phase ≠ 0 ∧ phase ≤ 8 then { m with _phase := m._phase &&& ~~~(phaseMask phase) } else m

/-- The bit of a group in the event data. -/
def groupBit (group : UInt32) : UInt32 := 1 <<< (group + 15)

/-- The bit of a phase in the event data. -/
def phaseBit (phase : UInt8) : UInt32 := 1 <<< (phase.toUInt32 + 23)

/-- The event data that `ScheduleEvent` makes. -/
def eventData (eventId group : UInt32) (phase : UInt8) : UInt32 :=
  let eventId := if group ≠ 0 ∧ group ≤ 8 then eventId ||| groupBit group else eventId
  if phase ≠ 0 ∧ phase ≤ 8 then eventId ||| phaseBit phase else eventId

/-- `EventMap::ScheduleEvent`. -/
def ScheduleEvent (eventId time group : UInt32) (phase : UInt8) : EventMap :=
  { m with
    _eventMap := Multimap.insert (addTime m._time time.toNat) (eventData eventId group phase) m._eventMap }

/-- `EventMap::Repeat`. -/
def Repeat (time : UInt32) : EventMap :=
  { m with _eventMap := Multimap.insert (addTime m._time time.toNat) m._lastEvent m._eventMap }

/-- Whether the phase mask keeps an event from happening. -/
def isExcluded (_phase : UInt8) (data : UInt32) : Bool :=
  _phase != 0 && data &&& 0xFF000000 != 0 && (data >>> 24) &&& _phase.toUInt32 == 0

/-- The loop of `EventMap::ExecuteEvent`: the data of the event that happens, if one does, and what is left. -/
def executeLoop (_time : ℤ) (_phase : UInt8) : EventStore → Option UInt32 × EventStore
  | [] => (none, [])
  | (time, data) :: rest =>
    if time > _time then (none, (time, data) :: rest)
    else if isExcluded _phase data then executeLoop _time _phase rest
    else (some data, rest)

/-- `EventMap::ExecuteEvent`, the id of the event and the map that is left. -/
def ExecuteEvent : UInt32 × EventMap :=
  match executeLoop m._time m._phase m._eventMap with
  | (none, _eventMap) => (0, { m with _eventMap := _eventMap })
  | (some data, _eventMap) => (data &&& 0x0000FFFF, { m with _eventMap := _eventMap, _lastEvent := data })

/-- `EventMap::DelayEvents`, of all events. -/
def DelayEvents (delay : UInt32) : EventMap :=
  { m with _time := if (delay.toNat : ℤ) < m._time then m._time - delay.toNat else 0 }

/-- Whether an event is in a group. -/
def hasGroup (group data : UInt32) : Bool := data &&& groupBit group != 0

/-- `EventMap::DelayEvents`, of the events of a group. -/
def DelayGroupEvents (delay group : UInt32) : EventMap :=
  if group = 0 ∨ group > 8 then m
  else
    let delayed := (m._eventMap.filter (hasGroup group ·.2)).map fun x ↦ (addTime x.1 delay.toNat, x.2)
    let kept := m._eventMap.filter (!hasGroup group ·.2)
    { m with _eventMap := Multimap.insertAll kept (Multimap.insertAll [] delayed) }

/-- `EventMap::CancelEvent`. -/
def CancelEvent (eventId : UInt32) : EventMap :=
  { m with _eventMap := m._eventMap.filter fun x ↦ x.2 &&& 0x0000FFFF != eventId }

/-- `EventMap::CancelEventGroup`. -/
def CancelEventGroup (group : UInt32) : EventMap :=
  if group = 0 ∨ group > 8 then m
  else { m with _eventMap := m._eventMap.filter (!hasGroup group ·.2) }

/-- `EventMap::RescheduleEvent`. -/
def RescheduleEvent (eventId time group : UInt32) (phase : UInt8) : EventMap :=
  (m.CancelEvent eventId).ScheduleEvent eventId time group phase

end EventMap

end Gundrak.Events
